import Signpost.Text.Decimal
import Signpost.Text.Percent
import Signpost.Text.Pieces
import Signpost.Url.Host

/-!
# Base urls

A base url is an absolute `http` or `https` url. It is read leniently and kept in a normal form: scheme
and host in lower case, no default port, dot segments resolved, a backslash read as a slash, and what
may not stand in a url escaped.

* `BaseUrl.parse` reads a base url; other schemes are refused by name, but only in a url that is one.
* `BaseUrl.text` is the whole url, `BaseUrl.linkBase` what stands in front of the path of a link.

What is read depends on how the names of hosts are read, which is `asciiName?` if nothing else is said.
-/

namespace Signpost

/-- Why a text is no base url. -/
inductive ConfigError where
  | invalidBaseUrl
  | unsupportedScheme (scheme : String)
deriving DecidableEq

namespace ConfigError

def message : ConfigError → String
  | invalidBaseUrl => "invalid base url"
  | unsupportedScheme scheme => "base url scheme must be http or https, found " ++ scheme

end ConfigError

namespace Url

/-! ## Characters -/

/-- Visible ASCII characters apart from some marks. -/
def isVisibleExcept (marks : String) (c : Char) : Bool :=
  0x20 < c.toNat && c.toNat < 0x7F && !marks.toList.contains c

/-- A character that stands in user information as it is. -/
def isUserChar : Char → Bool := isVisibleExcept "\"#<>?`\x7b\x7d/:;=@[\\]^|"

/-- A character that stands in a path as it is. -/
def isPathChar : Char → Bool := isVisibleExcept "\"#<>?`\x7b\x7d"

/-- A character that stands in a query as it is. -/
def isQueryChar : Char → Bool := isVisibleExcept "\"#<>'"

/-- A character that stands in a fragment as it is. -/
def isFragmentChar : Char → Bool := isVisibleExcept "\"<>`"

/-- A slash in either direction. -/
def isSlash (c : Char) : Bool := c = '/' || c = '\\'

/-- The character ends a path. -/
def endsPath (c : Char) : Bool := c = '?' || c = '#'

/-! ## Authorities -/

/-- User information, host and port in front of a path. -/
structure Authority where
  username : String := ""
  password : String := ""
  host : String
  port : Option Nat := none
deriving DecidableEq

/-- The text before the last `@` of an authority, if there is one, and the text after it. -/
def splitUser (cs : List Char) : Option (List Char) × List Char :=
  match cut (· = '@') cs.reverse with
  | (host, some user) => (some user.reverse, host.reverse)
  | (_, none) => (none, cs)

/-- The text of a host, and the text after the colon behind it. A colon in brackets belongs to the host. -/
def splitPort : Bool → List Char → List Char × Option (List Char)
  | _, [] => ([], none)
  | inBrackets, c :: cs =>
    if c = ':' ∧ !inBrackets then ([], some cs)
    else
      let (host, port) := splitPort (if c = '[' then true else if c = ']' then false else inBrackets) cs
      (c :: host, port)

/-- The port of a text: none when it is empty, and refused above 65535. -/
def port? (cs : List Char) : Option (Option Nat) :=
  if cs.isEmpty then some none
  else
    match Decimal.value? cs with
    | some n => if n ≤ 65535 then some (some n) else none
    | none => none

/-- The authority of a text, whose port is kept when it is not the default one. -/
def authority? (names : NameReading) (defaultPort : Nat) (cs : List Char) : Option Authority := do
  let (user, rest) := splitUser cs
  let (username, password) := cut (· = ':') (user.getD [])
  let (host, port) := splitPort false rest
  let host ← host? names host
  let port ← port? (port.getD [])
  some
    { username := String.ofList (Percent.escape isUserChar username)
      password := String.ofList (Percent.escape isUserChar (password.getD []))
      host
      port := if port = some defaultPort then none else port }

/-! ## Paths -/

/-- A segment that stands for the same place. -/
def isDot (cs : List Char) : Bool := [".", "%2e"].contains (String.ofList (cs.map Char.toLower))

/-- A segment that stands for the place above. -/
def isDoubleDot (cs : List Char) : Bool :=
  ["..", ".%2e", "%2e.", "%2e%2e"].contains (String.ofList (cs.map Char.toLower))

/-- A letter and a colon or a bar. -/
def isDriveLetter : List Char → Bool
  | [letter, mark] => letter.isAlpha && (mark = ':' || mark = '|')
  | _ => false

/-- The segments without the last one, the first in the list. A drive letter stays where it is. -/
def leave : List (List Char) → List (List Char)
  | [] => []
  | last :: above => if isDriveLetter last then last :: above else above

/-- The segments of a path without dot segments; the ones that stay so far are given in reverse order. -/
def resolve (above : List (List Char)) : List (List Char) → List (List Char)
  | [] => above.reverse
  | segment :: rest =>
    if isDoubleDot segment then
      if rest.isEmpty then ([] :: leave above).reverse else resolve (leave above) rest
    else if isDot segment then
      if rest.isEmpty then ([] :: above).reverse else resolve above rest
    else resolve (Percent.escape isPathChar segment :: above) rest

/-- The normal form of a path, which is empty or begins with a slash. -/
def normalPath (cs : List Char) : String :=
  String.ofList ((resolve [] (pieces isSlash cs.tail)).flatMap ('/' :: ·))

/-! ## Schemes -/

/-- A text without control characters and spaces around it, and without tabs and line ends. -/
def tidy (cs : List Char) : List Char :=
  let isOuter (c : Char) : Bool := c.toNat ≤ 0x20
  (((cs.dropWhile isOuter).reverse.dropWhile isOuter).reverse).filter
    fun c => c ≠ '\t' && c ≠ '\n' && c ≠ '\r'

/-- The scheme in lower case, and the text after its colon. -/
def scheme? (cs : List Char) : Option (String × List Char) :=
  let isSchemeChar (c : Char) : Bool := c.isAlphanum || c = '+' || c = '-' || c = '.'
  let scheme := cs.takeWhile isSchemeChar
  match scheme, cs.drop scheme.length with
  | first :: _, ':' :: rest =>
    if first.isAlpha then some (String.ofList (scheme.map Char.toLower), rest) else none
  | _, _ => none

/-- The default port of a scheme whose urls always have a host. -/
def defaultPort? : String → Option Nat
  | "http" => some 80
  | "https" => some 443
  | "ws" => some 80
  | "wss" => some 443
  | "ftp" => some 21
  | _ => none

/-- The authority behind any number of slashes, and the text after it. -/
def splitAuthority (cs : List Char) : List Char × List Char :=
  let cs := cs.dropWhile isSlash
  let authority := cs.takeWhile fun c => !isSlash c && !endsPath c
  (authority, cs.drop authority.length)

/-- The text after the colon of a file url is a file url: its host, if any, is one. A drive letter in
place of the host begins the path. -/
def isFileRest (names : NameReading) (cs : List Char) : Bool :=
  match cs with
  | a :: b :: rest =>
    if isSlash a && isSlash b then
      let host := rest.takeWhile fun c => !isSlash c && !endsPath c
      host.isEmpty || isDriveLetter host || (host? names host).isSome
    else true
  | _ => true

/-- The host behind user information may be left out: there is none, nothing but a colon, or the `@`
alone at the end of the url. -/
def mayLackHost (atEnd : Bool) : Option (List Char) → Bool
  | none => true
  | some [] => atEnd
  | some user => user = [':']

/-- The text after the colon of another scheme makes a url: after two slashes, a host without forbidden
characters and a port, before which the host may not be left out. A backslash ends only a port. -/
def isOpaqueRest (cs : List Char) : Bool :=
  match cs with
  | '/' :: '/' :: rest =>
    let authority := rest.takeWhile fun c => c ≠ '/' && !endsPath c
    let (user, hostAndPort) := splitUser authority
    let (host, port) := splitPort false hostAndPort
    let isHost := (bracketed? host).isSome || host.all (!isForbiddenInHost ·)
    let isPort := (port? ((port.getD []).takeWhile (· ≠ '\\'))).isSome
    let mayLack := port.isNone && mayLackHost (rest.length = authority.length) user
    isHost && isPort && (!host.isEmpty || mayLack)
  | _ => true

/-- The text after the colon makes a url with this scheme. -/
def isRest (names : NameReading) (scheme : String) (cs : List Char) : Bool :=
  match defaultPort? scheme with
  | some port => (authority? names port (splitAuthority cs).1).isSome
  | none => if scheme = "file" then isFileRest names cs else isOpaqueRest cs

end Url

/-- An absolute `http` or `https` url in its normal form. -/
structure BaseUrl where
  secure : Bool
  authority : Url.Authority
  path : String
  query : Option String := none
  fragment : Option String := none
deriving DecidableEq

namespace BaseUrl

def scheme (u : BaseUrl) : String := if u.secure then "https" else "http"

/-- Scheme, host and port. -/
def origin (u : BaseUrl) : String :=
  u.scheme ++ "://" ++ u.authority.host ++ u.authority.port.elim "" fun n => ":" ++ toString n

/-- User name and password before the host. -/
def credentials (u : BaseUrl) : String :=
  let a := u.authority
  if a.username = "" ∧ a.password = "" then ""
  else a.username ++ (if a.password = "" then "" else ":" ++ a.password) ++ "@"

/-- The whole url. -/
def text (u : BaseUrl) : String :=
  u.scheme ++ "://" ++ u.credentials ++ u.authority.host ++
    (u.authority.port.elim "" fun n => ":" ++ toString n) ++ u.path ++
    (u.query.elim "" ("?" ++ ·)) ++ (u.fragment.elim "" ("#" ++ ·))

/-- The path without the slashes at its end. -/
def basePath (u : BaseUrl) : String :=
  String.ofList (u.path.toList.reverse.dropWhile (· = '/')).reverse

/-- What stands in front of the path of a link. -/
def linkBase (u : BaseUrl) : String := u.origin ++ u.basePath

/-- The url of the text after the colon of an `http` or `https` url. -/
def ofRest? (names : Url.NameReading) (secure : Bool) (cs : List Char) : Option BaseUrl := do
  let (authority, rest) := Url.splitAuthority cs
  let authority ← Url.authority? names (if secure then 443 else 80) authority
  let (before, fragment) := cut (· = '#') rest
  let (path, query) := cut (· = '?') before
  some
    { secure
      authority
      path := Url.normalPath path
      query := query.map fun q => String.ofList (Percent.escape Url.isQueryChar q)
      fragment := fragment.map fun f => String.ofList (Percent.escape Url.isFragmentChar f) }

/-- The base url of a text. -/
def parse (text : String) (names : Url.NameReading := Url.asciiName?) : Except ConfigError BaseUrl :=
  match Url.scheme? (Url.tidy text.toList) with
  | none => .error .invalidBaseUrl
  | some (scheme, rest) =>
    if scheme = "http" ∨ scheme = "https" then
      match ofRest? names (scheme = "https") rest with
      | some u => .ok u
      | none => .error .invalidBaseUrl
    else if Url.isRest names scheme rest then .error (.unsupportedScheme scheme)
    else .error .invalidBaseUrl

end BaseUrl

end Signpost

/-!
# Request uris

The uri of a request, as a path and a query. A uri in origin form begins with the path; one in
absolute form has a scheme and an authority in front, and one in authority form has nothing else.
A fragment is dropped.

* `Uri.ofText?` reads a uri of at most `Uri.maxBytes` bytes.
* `Uri.text` is the path and the query as they were read.
-/

namespace Signpost.Http

/-- A request uri, without scheme, authority and fragment. -/
structure Uri where
  path : String
  query : Option String := none
deriving DecidableEq

namespace Uri

/-- The number of bytes that a uri may have. -/
def maxBytes : Nat := 65534

/-- The number of characters that the scheme of a uri may have. -/
def maxScheme : Nat := 64

/-- The path, and the query after a question mark. -/
def text (u : Uri) : String :=
  match u.query with
  | some query => u.path ++ "?" ++ query
  | none => u.path

/-- A character that may stand in a path. -/
def isPathChar (c : Char) : Bool :=
  let n := c.toNat
  n == 0x21 || n == 0x22 || (0x24 ≤ n && n ≤ 0x3B) || n == 0x3D || (0x40 ≤ n && n ≤ 0x5F) ||
    (0x61 ≤ n && n ≤ 0x7E) || 0x80 ≤ n

/-- A character that may stand in a query. -/
def isQueryChar (c : Char) : Bool :=
  let n := c.toNat
  n == 0x21 || (0x24 ≤ n && n ≤ 0x3B) || n == 0x3D || (0x3F ≤ n && n ≤ 0x7E) || 0x80 ≤ n

/-- The path and query of a text that holds nothing else but a fragment. -/
def ofPathAndQuery? (cs : List Char) : Option Uri :=
  let shown := cs.takeWhile (· ≠ '#')
  let path := shown.takeWhile (· ≠ '?')
  let query := (shown.drop path.length).tail
  if path.all isPathChar && query.all isQueryChar then
    some
      { path := if path.isEmpty then "/" else String.ofList path
        query := if shown.length = path.length then none else some (String.ofList query) }
  else none

/-! ## Authorities -/

/-- What an authority holds up to some character: the colons since the last `@` or bracket, whether
a bracket was opened and closed, whether there was a `%` since the last `@` or bracket, and whether
the last character was `@`. -/
structure AuthorityScan where
  colons : Nat := 0
  opened : Bool := false
  closed : Bool := false
  percent : Bool := false
  endsAtSign : Bool := false

/-- A character that may stand in an authority, apart from `%`, colons, brackets and `@`. -/
def isAuthorityChar (c : Char) : Bool := c.isAlphanum || "!$&'()*+,-.;=_~".toList.contains c

/-- The scan after one more character, or `none` where the character is not allowed. -/
def AuthorityScan.next (s : AuthorityScan) (c : Char) : Option AuthorityScan :=
  if c = ':' then
    if s.colons < 8 then some { s with colons := s.colons + 1, endsAtSign := false } else none
  else if c = '[' then
    if s.percent || s.opened then none else some { s with opened := true, endsAtSign := false }
  else if c = ']' then
    if s.opened && !s.closed then
      some { s with closed := true, colons := 0, percent := false, endsAtSign := false }
    else none
  else if c = '@' then some { s with colons := 0, percent := false, endsAtSign := true }
  else if c = '%' then some { s with percent := true, endsAtSign := false }
  else if isAuthorityChar c then some { s with endsAtSign := false }
  else none

/-- The scanned text is an authority: brackets match, at most one colon is left for a port, a `%`
stands only in user information or an address in brackets, and something follows the last `@`. -/
def AuthorityScan.isComplete (s : AuthorityScan) : Bool :=
  s.opened == s.closed && s.colons ≤ 1 && !s.percent && !s.endsAtSign

/-- The text is empty or an authority. -/
def isAuthority (cs : List Char) : Bool :=
  match cs.foldlM AuthorityScan.next {} with
  | some s => s.isComplete
  | none => false

/-- The character ends an authority. -/
def endsAuthority (c : Char) : Bool := c = '/' || c = '?' || c = '#'

/-! ## Schemes -/

/-- A character that may stand in a scheme. -/
def isSchemeChar (c : Char) : Bool := c.isAlphanum || c = '+' || c = '-' || c = '.' || c = '~'

/-- The scheme in front of `://` and the text after that, if there is one. -/
def scheme? (cs : List Char) : Option (List Char × List Char) :=
  let scheme := cs.takeWhile isSchemeChar
  match cs.drop scheme.length with
  | ':' :: '/' :: '/' :: rest => some (scheme, rest)
  | _ => none

/-- A uri that does not begin with its path. -/
def ofAbsolute? (cs : List Char) : Option Uri :=
  match scheme? cs with
  | some (scheme, rest) =>
    let authority := rest.takeWhile (!endsAuthority ·)
    if scheme.length ≤ maxScheme && !authority.isEmpty && isAuthority authority then
      ofPathAndQuery? (rest.drop authority.length)
    else none
  | none => if cs.any endsAuthority || !isAuthority cs then none else some { path := "" }

/-- The uri that a text stands for. -/
def ofText? (text : String) : Option Uri :=
  if text.utf8ByteSize > maxBytes then none
  else
    match text.toList with
    | [] => none
    | ['*'] => some { path := "*" }
    | '/' :: cs => ofPathAndQuery? ('/' :: cs)
    | cs => ofAbsolute? cs

end Uri

end Signpost.Http

import Signpost.Host.Address
import Signpost.Host.Label
import Signpost.Text.Percent

/-!
# Hosts

A host is a name, four octets or an address in brackets. Each is kept in its normal form.

* `host?` reads a host. A name whose last label is a number has to spell four octets.
* `NameReading` is how names are read. A name may be in any script, and has a form in ASCII.
* `asciiName?` reads the names that are in ASCII already, whose `xn--` labels have to stand for something.
-/

namespace Signpost.Url

/-! ## Characters -/

/-- A character that no host may hold. -/
def isForbiddenInHost (c : Char) : Bool :=
  c.toNat = 0 || c = '\t' || c = '\n' || c = '\r' || " #/:<>?@[\\]^|".toList.contains c

/-- A character that a host name may not hold, written or escaped. -/
def isForbiddenInName (c : Char) : Bool :=
  isForbiddenInHost c || c.toNat < 0x20 || c.toNat = 0x7F || c = '%'

/-! ## Names -/

/-- How names are read: the ASCII form, in lower case, of a text that is a name. -/
abbrev NameReading := List Char → Option (List Char)

/-- The reading of names in ASCII, in either case. -/
def asciiName? : NameReading := fun cs =>
  let name := cs.map Char.toLower
  if name.any isForbiddenInName || name.any (0x80 ≤ ·.toNat) || !Host.isSoundName name then none
  else some name

/-- The last label, before an optional dot at the end. -/
def lastLabel (cs : List Char) : List Char :=
  match (pieces (· = '.') cs).reverse with
  | [] :: label :: _ => label
  | label :: _ => label
  | [] => []

/-- A label that makes a host an address: decimal digits, or `0x` and hexadecimal digits. -/
def isNumeric (label : List Char) : Bool :=
  match label with
  | '0' :: 'x' :: digits => digits.all fun c => c.isDigit || ('a' ≤ c && c ≤ 'f')
  | digits => !digits.isEmpty && digits.all Char.isDigit

/-! ## Hosts -/

/-- The address between brackets. -/
def bracketed? : List Char → Option Host.Ipv6
  | '[' :: cs => if cs.getLast? = some ']' then Host.Ipv6.read? cs.dropLast else none
  | _ => none

def bracketedText (a : Host.Ipv6) : List Char := '[' :: (a.text ++ [']'])

/-- The normal form of a host that is a name or four octets, from its ASCII form. -/
def nameOrOctets? (name : List Char) : Option (List Char) :=
  if name.isEmpty then none
  else if isNumeric (lastLabel name) then (Host.Ipv4.read? name).map Host.Ipv4.text
  else some name

/-- The normal form of a host. Escapes count as the characters that they stand for. -/
def host? (names : NameReading) (cs : List Char) : Option String :=
  if cs.head? = some '[' then (bracketed? cs).map fun a => String.ofList (bracketedText a)
  else do
    let decoded ← Percent.decodeText? cs
    let name ← names decoded
    let host ← nameOrOctets? name
    some (String.ofList host)

end Signpost.Url

import Signpost.Http.Token

/-!
# Media types

A media type is read into its essence, `type/subtype` in lower case, and its parameters. Parameters
stay as they were written, apart from the case of their names and of the value of `charset`. A
trailing semicolon that no parameter follows is dropped.

* `MediaType.ofText?` reads a media type.
* `MediaType.agrees` compares media types loosely: values of parameters mostly do not count.
-/

namespace Signpost.Http

/-- A media type. `parameters` is empty or begins with a semicolon. -/
structure MediaType where
  essence : String
  parameters : String := ""
deriving DecidableEq

namespace MediaType

/-- The text of a media type. -/
def text (m : MediaType) : String := m.essence ++ m.parameters

/-- The media type of form bodies. -/
def form : MediaType := { essence := "application/x-www-form-urlencoded" }

/-- The media type of JSON bodies. -/
def json : MediaType := { essence := "application/json" }

/-! ## Reading -/

/-- A place among the parameters. `fold` says that the value belongs to `charset`, and `first` that
nothing of the value has been read. -/
inductive Place where
  | gap
  | name (read : List Char)
  | value (fold first : Bool)
  | quoted (fold first : Bool)
  | closed
deriving DecidableEq

/-- A character of a value, in lower case where case is folded. -/
def folded (fold : Bool) (c : Char) : Char := if fold then c.toLower else c

/-- The place after a character and the character as it is kept, or `none` where it is not allowed. -/
def Place.next : Place → Char → Option (Place × Char)
  | .gap, c =>
    if c = ' ' then some (.gap, c)
    else if isTokenChar c then some (.name [c.toLower], c.toLower)
    else none
  | .name read, c =>
    if c = '=' then some (.value (read = "charset".toList) true, c)
    else if isTokenChar c then some (.name (read ++ [c.toLower]), c.toLower)
    else none
  | .value fold first, c =>
    if c = '"' ∧ first then some (.quoted fold true, c)
    else if c = ';' ∧ !first then some (.gap, c)
    else if isTokenChar c then some (.value fold false, folded fold c)
    else none
  | .quoted fold first, c =>
    if c = '"' ∧ !first then some (.closed, c)
    else if c.toNat < 0x20 ∨ c.toNat = 0x7F then none
    else some (.quoted fold false, folded fold c)
  | .closed, c =>
    if c = ';' then some (.gap, c)
    else if c = ' ' then some (.closed, c)
    else none

/-- The parameters may end here: not in a name and not in quotes. -/
def Place.mayEnd : Place → Bool
  | .gap | .value _ _ | .closed => true
  | .name _ | .quoted _ _ => false

/-- The rest of the parameters as it is kept. -/
def parameters? : Place → List Char → Option (List Char)
  | place, [] => if place.mayEnd then some [] else none
  | place, c :: cs =>
    match place.next c with
    | some (next, kept) => (parameters? next cs).map (kept :: ·)
    | none => none

/-- The parameters after the semicolon at the end of an essence. -/
def parametersAfter? (cs : List Char) : Option (List Char) :=
  if cs.all (· = ' ') then some [] else (parameters? .gap cs).map (';' :: ·)

/-- The media type that a text stands for. An empty subtype is allowed at the end of the text only. -/
def ofText? (text : String) : Option MediaType :=
  let cs := text.toList
  let type := cs.takeWhile isTokenChar
  match type, cs.drop type.length with
  | [], _ => none
  | type, '/' :: cs =>
    let subtype := cs.takeWhile isTokenChar
    let essence := String.ofList ((type ++ '/' :: subtype).map Char.toLower)
    match subtype, cs.drop subtype.length with
    | _, [] => some { essence }
    | [], _ => none
    | _, ';' :: rest =>
      (parametersAfter? rest).map fun kept => { essence, parameters := String.ofList kept }
    | _, _ => none
  | _, _ => none

/-! ## Agreement -/

/-- The name of the first parameter, empty when there are no parameters. -/
def firstName (m : MediaType) : List Char :=
  (m.parameters.toList.tail.dropWhile (· = ' ')).takeWhile (· ≠ '=')

/-- The one parameter is `charset=utf-8`, with or without quotes and after one space. -/
def isUtf8 (m : MediaType) : Bool :=
  ["; charset=utf-8", "; charset=\"utf-8\""].any fun start =>
    start.toList.isPrefixOf m.parameters.toList &&
      (m.parameters.toList.drop start.length).all fun c => c = ' ' || c = ';'

/-- Media types agree when they have the same essence and their parameters begin with the same name.
Values and further parameters do not count, except that UTF-8 agrees with nothing else of its length. -/
def agrees (m other : MediaType) : Bool :=
  if m.isUtf8 ∧ m.text.utf8ByteSize = other.text.utf8ByteSize then m = other
  else m.essence = other.essence && m.firstName = other.firstName

theorem agrees_self (m : MediaType) : m.agrees m := by simp [agrees]

end MediaType

end Signpost.Http

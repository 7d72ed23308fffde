import Signpost.Form.Node
import Signpost.Query.Urlencoded
import Signpost.Text.Decimal

/-!
# Reading form bodies

A form body holds pairs between `&`. A key is a name and bracketed parts: `a[b]` is a field of `a`,
`a[0]` a position and `a[]` one more item. Names and values are urlencoded, and their bytes must be UTF-8;
escaped brackets are no brackets.

* `Form.parse?` reads the tree of a body.
-/

namespace Signpost.Form

/-- The number of levels that the first key may lead down; what follows them is one more name. Each
pair allows the next key one level more. -/
def firstLevels : Nat := 5

def openBracket : UInt8 := 0x5B
def closeBracket : UInt8 := 0x5D
def equalsSign : UInt8 := 0x3D
def ampersand : UInt8 := 0x26

/-- The text that written bytes stand for. -/
def text? (bytes : Bytes) : Option String :=
  (Utf8.decode? (Urlencoded.decodeBytes bytes)).map String.ofList

/-- The number of a position, below 2^64. -/
def index? (text : String) : Option Nat :=
  (Decimal.value? text.toList).bind fun n => if n < UInt64.size then some n else none

/-- The part in a bracket that was just opened, and the bytes after the closing bracket. An equals
sign belongs to the part. `isLast` says that no `&` follows the pair. -/
def bracket? (isLast : Bool) : Bytes → Option (Part × Bytes)
  | [] => if isLast then none else some (.name "", [])
  | b :: bs =>
    if b = closeBracket then some (.append, bs)
    else if b = openBracket ∨ b < 0x20 ∨ 0x7E < b then none
    else
      let inner := (b :: bs).takeWhile (· ≠ closeBracket)
      let rest := ((b :: bs).drop inner.length).tail
      if 0x30 ≤ b ∧ b ≤ 0x39 then
        ((text? inner).bind index?).map fun index => (.position index, rest)
      else (text? inner).map fun key => (.name key, rest)

/-- The parts in front of the value of a pair, and the bytes of the value. Nothing but another part,
the equals sign or the end may follow a part, and nothing but the value a part that appends. -/
def parts? (isLast : Bool) : Nat → Bytes → Option (List Part × Bytes)
  | _, [] => some ([], [])
  | levels, b :: bs =>
    if b = equalsSign then some ([], bs)
    else if b = openBracket then
      match levels with
      | 0 =>
        let rest := (b :: bs).takeWhile (· ≠ equalsSign)
        (text? rest).map fun key => ([.name key], ((b :: bs).drop rest.length).tail)
      | levels + 1 =>
        match bracket? isLast bs with
        | none => none
        | some (part, rest) =>
          match parts? isLast levels rest with
          | none => none
          | some (parts, value) =>
            if part = .append ∧ parts ≠ [] then none else some (part :: parts, value)
    else none

/-- The parts and the value of a pair, whose key may lead down some levels. A pair that begins with a
bracket has no name in front; any other first byte belongs to the name, also an equals sign. -/
def pair? (isLast : Bool) (levels : Nat) (first : UInt8) (rest : Bytes) :
    Option (List Part × String) := do
  let (parts, value) ←
    if first = openBracket then parts? isLast levels (first :: rest)
    else do
      let name := rest.takeWhile fun b => b ≠ openBracket ∧ b ≠ equalsSign
      let key ← text? (first :: name)
      let (parts, value) ← parts? isLast (levels - 1) (rest.drop name.length)
      some (.name key :: parts, value)
  let value ← text? value
  some (parts, value)

/-- The tree with the pairs of a body added in order. Empty pieces are dropped. -/
def addPairs? (levels : Nat) (root : Node) : List Bytes → Option Node
  | [] => some root
  | [] :: pieces => addPairs? levels root pieces
  | (first :: rest) :: pieces =>
    match pair? pieces.isEmpty levels first rest with
    | some (parts, value) =>
      match Node.add value parts (some root) with
      | some root => addPairs? (levels + 1) root pieces
      | none => none
    | none => none

/-- The tree of a form body. -/
def parse? (body : Bytes) : Option Node :=
  addPairs? firstLevels (.fields []) (pieces (· = ampersand) body)

end Signpost.Form

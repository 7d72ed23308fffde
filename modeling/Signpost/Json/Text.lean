import Signpost.Json.Value
import Signpost.Text.Percent
import Signpost.Text.Decimal

/-!
# JSON texts and numbers

* `Json.escape` writes a text as it stands between quotes: only quotes, backslashes and control
  characters are escaped. `Json.unescape?` reads it, and every other escape.
* `Json.ofText`, `Json.text?`, `Json.ofInt`, `Json.int?`: the values of texts and integers.
-/

namespace Signpost.Json

def quote : UInt8 := 0x22
def backslash : UInt8 := 0x5C

/-- The letter of a character that has a short escape. -/
def shortEscape? (c : Char) : Option UInt8 :=
  match c.toNat with
  | 0x08 => some 0x62
  | 0x09 => some 0x74
  | 0x0A => some 0x6E
  | 0x0C => some 0x66
  | 0x0D => some 0x72
  | 0x22 => some quote
  | 0x5C => some backslash
  | _ => none

/-- The byte that a short escape stands for. A slash may be escaped, too. -/
def shortEscaped? (letter : UInt8) : Option UInt8 :=
  if letter = 0x62 then some 0x08
  else if letter = 0x74 then some 0x09
  else if letter = 0x6E then some 0x0A
  else if letter = 0x66 then some 0x0C
  else if letter = 0x72 then some 0x0D
  else if letter = quote ∨ letter = backslash ∨ letter = 0x2F then some letter
  else none

/-- The written form of a character. Control characters have four hexadecimal digits. -/
def escapeChar (c : Char) : Bytes :=
  match shortEscape? c with
  | some letter => [backslash, letter]
  | none =>
    if c.toNat < 0x20 then
      [backslash, 0x75, 0x30, 0x30] ++
        Utf8.encode (Nat.toDigits 16 (c.toNat / 16) ++ Nat.toDigits 16 (c.toNat % 16))
    else String.utf8EncodeChar c

/-- The written form of a text. -/
def escape (cs : List Char) : Bytes := cs.flatMap escapeChar

/-! ## Reading texts -/

/-- The number of four hexadecimal digits. -/
def hexUnit? (a b c d : UInt8) : Option Nat := do
  let a ← Percent.hexValue? a
  let b ← Percent.hexValue? b
  let c ← Percent.hexValue? c
  let d ← Percent.hexValue? d
  some (a.toNat * 0x1000 + b.toNat * 0x100 + c.toNat * 0x10 + d.toNat)

/-- The bytes that a written text stands for. A number escape of a high surrogate needs one of a low
surrogate behind it, and no other surrogate may stand anywhere. -/
def unescape? : Bytes → Option Bytes
  | [] => some []
  | b :: bs =>
    if b ≠ backslash then (unescape? bs).map (b :: ·)
    else
      match bs with
      | [] => none
      | 0x75 :: p :: q :: r :: s :: rest =>
        match hexUnit? p q r s with
        | none => none
        | some unit =>
          if unit < 0xD800 ∨ 0xDFFF < unit then
            (unescape? rest).map (String.utf8EncodeChar (Char.ofNat unit) ++ ·)
          else if 0xDBFF < unit then none
          else
            match rest with
            | 0x5C :: 0x75 :: t :: u :: v :: w :: rest =>
              match hexUnit? t u v w with
              | none => none
              | some low =>
                if low < 0xDC00 ∨ 0xDFFF < low then none
                else
                  let code := 0x10000 + (unit - 0xD800) * 0x400 + (low - 0xDC00)
                  (unescape? rest).map (String.utf8EncodeChar (Char.ofNat code) ++ ·)
            | _ => none
      | letter :: rest =>
        match shortEscaped? letter with
        | some byte => (unescape? rest).map (byte :: ·)
        | none => none

/-- The text that a written text stands for. -/
def textOf? (written : Bytes) : Option String :=
  ((unescape? written).bind Utf8.decode?).map String.ofList

/-! ## Values of texts and integers -/

def ofText (text : String) : Json := .text (escape text.toList)

/-- The text of a value that is one. -/
def text? : Json → Option String
  | .text written => textOf? written
  | _ => none

def ofInt (n : Int) : Json := .number (Utf8.encode (Decimal.integer n))

/-- The integer of a number without fraction and exponent. A minus sign in front of zero makes no
integer. -/
def int? : Json → Option Int
  | .number written =>
    match (Utf8.decode? written).bind (Decimal.readInteger? true) with
    | some n => if n = 0 ∧ written.length ≠ 1 then none else some n
    | none => none
  | _ => none

end Signpost.Json

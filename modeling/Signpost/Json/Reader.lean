import Signpost.Json.Text

/-!
# Reading JSON

A document is one value in UTF-8 with white space around it. Texts need escapes of the right form only,
and numbers may have any size.

* `Json.parse?` reads a document.
-/

namespace Signpost.Json

/-- White space between the parts of a document. -/
def isSpace (b : UInt8) : Bool := b = 0x20 || b = 0x09 || b = 0x0A || b = 0x0D

/-- The document without white space in front. -/
def skipSpace (bytes : Bytes) : Bytes := bytes.dropWhile isSpace

def isDigit (b : UInt8) : Bool := 0x30 ≤ b && b ≤ 0x39

/-! ## Texts and numbers -/

/-- A written text up to its closing quote, and the bytes after the quote. -/
def scanText? : Bytes → Option (Bytes × Bytes)
  | [] => none
  | b :: bs =>
    if b = quote then some ([], bs)
    else if b < 0x20 then none
    else if b ≠ backslash then (scanText? bs).map fun (written, rest) => (b :: written, rest)
    else
      match bs with
      | 0x75 :: p :: q :: r :: s :: bs =>
        if (hexUnit? p q r s).isSome then
          (scanText? bs).map fun (written, rest) => (b :: 0x75 :: p :: q :: r :: s :: written, rest)
        else none
      | letter :: bs =>
        if (shortEscaped? letter).isSome then
          (scanText? bs).map fun (written, rest) => (b :: letter :: written, rest)
        else none
      | [] => none

/-- A byte that may stand in a number. -/
def isNumberByte (b : UInt8) : Bool :=
  isDigit b || b = 0x2B || b = 0x2D || b = 0x2E || b = 0x45 || b = 0x65

/-- A run of one or more digits and nothing else. -/
def isDigits (bytes : Bytes) : Bool := !bytes.isEmpty && bytes.all isDigit

/-- Digits, after an optional sign. -/
def isExponent : Bytes → Bool
  | 0x2B :: bs => isDigits bs
  | 0x2D :: bs => isDigits bs
  | bs => isDigits bs

/-- An optional exponent. -/
def isExponentPart : Bytes → Bool
  | [] => true
  | 0x45 :: bs => isExponent bs
  | 0x65 :: bs => isExponent bs
  | _ => false

/-- An optional fraction and an optional exponent. -/
def isFractionPart : Bytes → Bool
  | 0x2E :: bs =>
    let digits := bs.takeWhile isDigit
    !digits.isEmpty && isExponentPart (bs.drop digits.length)
  | bs => isExponentPart bs

/-- A number: an optional minus sign, an integer without leading zeros, a fraction, an exponent. -/
def isNumber (bytes : Bytes) : Bool :=
  let bytes := if bytes.head? = some 0x2D then bytes.tail else bytes
  let digits := bytes.takeWhile isDigit
  !digits.isEmpty && (digits.head? ≠ some 0x30 || digits.length = 1) &&
    isFractionPart (bytes.drop digits.length)

/-! ## Values -/

mutual

/-- The value at the front of a document, and the bytes after it. -/
def readValue? : Nat → Bytes → Option (Json × Bytes)
  | 0, _ => none
  | fuel + 1, bytes =>
    match skipSpace bytes with
    | [] => none
    | 0x6E :: 0x75 :: 0x6C :: 0x6C :: rest => some (.null, rest)
    | 0x74 :: 0x72 :: 0x75 :: 0x65 :: rest => some (.bool true, rest)
    | 0x66 :: 0x61 :: 0x6C :: 0x73 :: 0x65 :: rest => some (.bool false, rest)
    | 0x22 :: bs => (scanText? bs).map fun (written, rest) => (.text written, rest)
    | 0x5B :: bs =>
      match skipSpace bs with
      | 0x5D :: rest => some (.array [], rest)
      | _ => (readItems? fuel bs).map fun (items, rest) => (.array items, rest)
    | 0x7B :: bs =>
      match skipSpace bs with
      | 0x7D :: rest => some (.object [], rest)
      | _ => (readMembers? fuel bs).map fun (members, rest) => (.object members, rest)
    | bs =>
      let written := bs.takeWhile isNumberByte
      if isNumber written then some (.number written, bs.drop written.length) else none

/-- The items of an array up to its closing bracket, at least one. -/
def readItems? : Nat → Bytes → Option (List Json × Bytes)
  | 0, _ => none
  | fuel + 1, bytes =>
    match readValue? fuel bytes with
    | none => none
    | some (item, rest) =>
      match skipSpace rest with
      | 0x5D :: rest => some ([item], rest)
      | 0x2C :: rest => (readItems? fuel rest).map fun (items, rest) => (item :: items, rest)
      | _ => none

/-- The members of an object up to its closing brace, at least one. -/
def readMembers? : Nat → Bytes → Option (List (Bytes × Json) × Bytes)
  | 0, _ => none
  | fuel + 1, bytes =>
    match skipSpace bytes with
    | 0x22 :: bs =>
      match scanText? bs with
      | none => none
      | some (key, rest) =>
        match skipSpace rest with
        | 0x3A :: rest =>
          match readValue? fuel rest with
          | none => none
          | some (value, rest) =>
            match skipSpace rest with
            | 0x7D :: rest => some ([(key, value)], rest)
            | 0x2C :: rest =>
              (readMembers? fuel rest).map fun (members, rest) => ((key, value) :: members, rest)
            | _ => none
        | _ => none
    | _ => none

end

/-- The value of a document. Every two steps read at least one byte, which bounds their number. -/
def parse? (bytes : Bytes) : Option Json :=
  match readValue? (2 * bytes.length + 1) bytes with
  | some (value, rest) => if (skipSpace rest).isEmpty then some value else none
  | none => none

end Signpost.Json

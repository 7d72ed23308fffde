import Signpost.Text.Decimal

/-!
# Addresses

A host may have an address in place of a name. An address can be spelled in many ways, of which one is its
normal form.

* `Ipv4.read?` reads up to four numbers between dots. The last one fills all octets that are left, so that
  `127.1` is `127.0.0.1`; numbers may be octal or hexadecimal. `Ipv4.text` writes four decimal octets.
* `Ipv6.read?` reads groups of hexadecimal digits between colons, in which `::` stands for as many zeros as
  are missing, and the last two groups may be four octets. `Ipv6.text` shortens the longest run of zeros.
-/

namespace Signpost.Host

/-! ## Numerals -/

/-- The value of a digit. Letters stand for more than nine, in either case. -/
def digit? (c : Char) : Option Nat :=
  if c.isDigit then some (c.toNat - '0'.toNat)
  else if 'a' ≤ c ∧ c ≤ 'f' then some (c.toNat - 'a'.toNat + 10)
  else if 'A' ≤ c ∧ c ≤ 'F' then some (c.toNat - 'A'.toNat + 10)
  else none

/-- A number with one more digit behind it. -/
def pushDigit? (radix n : Nat) (c : Char) : Option Nat :=
  match digit? c with
  | some d => if d < radix then some (radix * n + d) else none
  | none => none

/-- The number that digits stand for. It is zero if there are none. -/
def numeral? (radix : Nat) (cs : List Char) : Option Nat := cs.foldlM (pushDigit? radix) 0

/-! ## Four octets -/

/-- An address of 32 bits. -/
structure Ipv4 where
  bits : UInt32
deriving DecidableEq

namespace Ipv4

/-- A number in an address: hexadecimal behind `0x`, octal behind another zero, or else decimal. -/
def number? : List Char → Option Nat
  | [] => none
  | '0' :: 'x' :: digits => numeral? 16 digits
  | '0' :: first :: digits => numeral? 8 (first :: digits)
  | digits => numeral? 10 digits

/-- The texts of the numbers. A dot at the end counts for nothing. -/
def parts (cs : List Char) : List (List Char) :=
  let parts := pieces (· = '.') cs
  if parts.getLast? = some [] then parts.dropLast else parts

/-- The number that numbers make in so many octets: each takes one, the last all that are left. -/
def bits? : Nat → List Nat → Option Nat
  | octets + 1, [n] => if n >>> (8 * (octets + 1)) = 0 then some n else none
  | octets + 1, n :: next :: rest =>
    if n < 256 then (bits? octets (next :: rest)).map (n <<< (8 * octets) + ·) else none
  | _, _ => none

/-- The address that a name in lower case spells. -/
def read? (cs : List Char) : Option Ipv4 := do
  let numbers ← (parts cs).mapM number?
  let bits ← bits? 4 numbers
  some ⟨UInt32.ofNat bits⟩

/-- The octet with so many octets behind it. -/
def octet (a : Ipv4) (place : Nat) : Nat := a.bits.toNat >>> (8 * place) % 256

def octets (a : Ipv4) : List Nat := [a.octet 3, a.octet 2, a.octet 1, a.octet 0]

/-- The normal form of an address. -/
def text (a : Ipv4) : List Char := ['.'].intercalate (a.octets.map Decimal.digits)

end Ipv4

/-! ## Eight groups -/

/-- An address of eight groups of 16 bits. -/
structure Ipv6 where
  groups : List UInt16
  length_groups : groups.length = 8
deriving DecidableEq

namespace Ipv6

/-- A group of one to four hexadecimal digits. -/
def group? (cs : List Char) : Option UInt16 :=
  if cs.isEmpty || 4 < cs.length then none else (numeral? 16 cs).map UInt16.ofNat

/-- A number below 256 without leading zeros. -/
def octet? (cs : List Char) : Option Nat :=
  match Decimal.value? cs with
  | some n => if n < 256 ∧ Decimal.digits n = cs then some n else none
  | none => none

/-- The two groups that four octets between dots make. -/
def dotted? (cs : List Char) : Option (List UInt16) :=
  match (pieces (· = '.') cs).mapM octet? with
  | some [a, b, c, d] => some [UInt16.ofNat (256 * a + b), UInt16.ofNat (256 * c + d)]
  | _ => none

/-- The groups of some texts. At the end of the address the last text may be octets. -/
def readGroups? (atEnd : Bool) : List (List Char) → Option (List UInt16)
  | [] => some []
  | [last] =>
    match group? last with
    | some g => some [g]
    | none => if atEnd then dotted? last else none
  | cs :: next :: rest => do
    let g ← group? cs
    let gs ← readGroups? atEnd (next :: rest)
    some (g :: gs)

/-- The groups between the colons of a text, which may be empty. -/
def groups? (atEnd : Bool) (cs : List Char) : Option (List UInt16) :=
  if cs.isEmpty then some [] else readGroups? atEnd (pieces (· = ':') cs)

/-- The text before the first `::`, and the text after it if there is one. -/
def splitGap : List Char → List Char × Option (List Char)
  | ':' :: ':' :: rest => ([], some rest)
  | c :: cs => (c :: (splitGap cs).1, (splitGap cs).2)
  | [] => ([], none)

def ofGroups? (gs : List UInt16) : Option Ipv6 := if h : gs.length = 8 then some ⟨gs, h⟩ else none

/-- The address that a text spells. A `::` stands for one zero at least. -/
def read? (cs : List Char) : Option Ipv6 :=
  match splitGap cs with
  | (all, none) => (groups? true all).bind ofGroups?
  | (before, some after) => do
    let high ← groups? false before
    let low ← groups? true after
    let missing := 8 - (high.length + low.length)
    if missing = 0 then none else ofGroups? (high ++ List.replicate missing 0 ++ low)

/-- Groups in hexadecimal, with colons between them. -/
def groupsText (gs : List UInt16) : List Char :=
  [':'].intercalate (gs.map fun g => Nat.toDigits 16 g.toNat)

/-- The longest run of zeros, the first one of several: what stands before it, its length and what stands
after it. -/
def splitZeros : List UInt16 → List UInt16 × Nat × List UInt16
  | [] => ([], 0, [])
  | g :: gs =>
    let zeros := (g :: gs).takeWhile (· = 0)
    let (before, length, after) := splitZeros gs
    if length ≤ zeros.length then ([], zeros.length, (g :: gs).dropWhile (· = 0))
    else (g :: before, length, after)

/-- The normal form of an address. A zero alone is not shortened. -/
def text (a : Ipv6) : List Char :=
  let (before, length, after) := splitZeros a.groups
  if length < 2 then groupsText a.groups else groupsText before ++ "::".toList ++ groupsText after

end Ipv6

end Signpost.Host

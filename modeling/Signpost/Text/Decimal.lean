import Signpost.Text.Pieces

/-!
# Decimal numbers

* `Decimal.digits` writes a natural number with `Nat.toDigits`, `Decimal.value?` reads a run of digits.
* `Decimal.integer` writes an integer, with a sign only in front of a negative one;
  `Decimal.readInteger?` also takes a `+` and leading zeros.
* `value?_digits`, `readInteger?_integer`: what is written reads back.
-/

namespace Signpost.Decimal

/-- The decimal digits of a natural number, without leading zeros. -/
def digits (n : Nat) : List Char := Nat.toDigits 10 n

/-- The number that a non-empty run of digits stands for. -/
def value? (cs : List Char) : Option Nat :=
  if cs ≠ [] ∧ cs.all Char.isDigit then some (Nat.ofDigitChars 10 cs 0) else none

/-- An integer: its digits, after a minus sign when it is negative. -/
def integer (n : Int) : List Char :=
  if n < 0 then '-' :: digits n.natAbs else digits n.natAbs

/-- The integer that an optional sign and a run of digits stand for. A minus sign is refused when
`signed` is false, even in front of zero. -/
def readInteger? (signed : Bool) : List Char → Option Int
  | '-' :: cs => if signed then (value? cs).map fun n => -Int.ofNat n else none
  | '+' :: cs => (value? cs).map Int.ofNat
  | cs => (value? cs).map Int.ofNat

theorem isDigit_of_mem_digits {n : Nat} {c : Char} (h : c ∈ digits n) : c.isDigit = true :=
  Nat.isDigit_of_mem_toDigits (b := 10) (by decide) (by decide) h

theorem digits_ne_nil (n : Nat) : digits n ≠ [] := Nat.toDigits_ne_nil

/-- Written digits read back. -/
theorem value?_digits (n : Nat) : value? (digits n) = some n := by
  have h : (digits n).all Char.isDigit = true :=
    List.all_eq_true.2 fun _ hc => isDigit_of_mem_digits hc
  rw [value?, if_pos ⟨digits_ne_nil n, h⟩, digits, Nat.ofDigitChars_ten_toDigits]

/-- Text without a sign in front is read as a run of digits. -/
theorem readInteger?_of_isDigit (signed : Bool) {c : Char} (hc : c.isDigit = true) (cs : List Char) :
    readInteger? signed (c :: cs) = (value? (c :: cs)).map Int.ofNat := by
  have h1 : c ≠ '-' := by rintro rfl; revert hc; decide
  have h2 : c ≠ '+' := by rintro rfl; revert hc; decide
  simp [readInteger?, h1, h2]

/-- A written integer reads back, a negative one where signs are read. -/
theorem readInteger?_integer (signed : Bool) {n : Int} (h : 0 ≤ n ∨ signed = true) :
    readInteger? signed (integer n) = some n := by
  unfold integer
  split
  · rename_i hn
    have hs : signed = true := by rcases h with h | h <;> omega
    have hm : -Int.ofNat n.natAbs = n := by
      show -(n.natAbs : Int) = n
      omega
    simp only [readInteger?, hs, if_true, value?_digits, Option.map_some, hm]
  · rename_i hn
    cases hd : digits n.natAbs with
    | nil => exact absurd hd (digits_ne_nil _)
    | cons c cs =>
      have hc : c.isDigit = true := isDigit_of_mem_digits (n := n.natAbs) (by simp [hd])
      have hm : Int.ofNat n.natAbs = n := Int.natAbs_of_nonneg (Int.not_lt.1 hn)
      rw [readInteger?_of_isDigit signed hc, ← hd, value?_digits, Option.map_some, hm]

end Signpost.Decimal

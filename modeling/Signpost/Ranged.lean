import Signpost.Text.Decimal
import Signpost.TextForm

/-!
# Integers in a range

`Ranged lo hi` holds the integers from `lo` to `hi`; `Unsigned b` and `Signed b` are the ranges of
`b` binary digits. Their text form is decimal. A minus sign is read only where the range has
negative numbers, and a number outside the range is never wrapped into it.
-/

namespace Signpost

/-- An integer from `lo` to `hi`, both included. -/
structure Ranged (lo hi : Int) where
  val : Int
  lo_le : lo ≤ val
  le_hi : val ≤ hi
deriving DecidableEq

/-- The natural numbers of `bits` binary digits. -/
abbrev Unsigned (bits : Nat) := Ranged 0 (Int.pow 2 bits - 1)

/-- The integers of `bits` binary digits, one of them for the sign. -/
abbrev Signed (bits : Nat) := Ranged (-Int.pow 2 (bits - 1)) (Int.pow 2 (bits - 1) - 1)

namespace Ranged

variable {lo hi : Int}

@[ext] theorem ext {a b : Ranged lo hi} (h : a.val = b.val) : a = b := by
  cases a; cases b; cases h; rfl

/-- The integer as a member of the range, if it is one. -/
def ofInt? (n : Int) : Option (Ranged lo hi) :=
  if h : lo ≤ n ∧ n ≤ hi then some ⟨n, h.1, h.2⟩ else none

theorem ofInt?_val (a : Ranged lo hi) : ofInt? a.val = some a := by
  simp [ofInt?, a.lo_le, a.le_hi]

instance : TextForm (Ranged lo hi) where
  write a := String.ofList (Decimal.integer a.val)
  read? text := (Decimal.readInteger? (decide (lo < 0)) text.toList).bind ofInt?

instance : LawfulTextForm (Ranged lo hi) where
  read?_write a := by
    have h : 0 ≤ a.val ∨ decide (lo < 0) = true := by
      have := a.lo_le
      simp only [decide_eq_true_eq]
      omega
    simp [TextForm.read?, TextForm.write, Decimal.readInteger?_integer _ h, ofInt?_val]

end Ranged

end Signpost

import Mathlib.Algebra.Group.Int.Defs
import Signpost.Conversion
import Signpost.Proofs.Calendar.Date
import Signpost.Ranged

/-!
# Canonical texts

The texts that a text conversion accepts are those that it writes, for integers and for dates.

* `apply_ranged_iff`: an integer is read from its shortest decimal form, if it is in the range.
* `apply_date_iff`: a date is read from its written form.
* `accepts_canonical`: both, for the integers of some binary digits, and that every value reads back.
-/

namespace Signpost.Conversion

variable {text : String}

theorem eq_ofList_iff {cs : List Char} : text = String.ofList cs ↔ text.toList = cs := by
  rw [← String.toList_inj, String.toList_ofList]

/-- An integer is read from its shortest decimal form, and from no other text. -/
theorem apply_ranged_iff {lo hi n : Int} :
    (∃ a : Ranged lo hi, a.val = n ∧ (Conversion.text (Ranged lo hi)).apply text = some a) ↔
      (lo ≤ n ∧ n ≤ hi) ∧ Decimal.IsShortest n text.toList := by
  have happly (a : Ranged lo hi) : (Conversion.text (Ranged lo hi)).apply text = some a ↔
      Decimal.IsShortest a.val text.toList := by
    rw [Decimal.isShortest_iff]
    exact TextForm.canonical?_eq_some_iff.trans eq_ofList_iff
  simp only [happly]
  constructor
  · rintro ⟨a, rfl, ha⟩
    exact ⟨⟨a.lo_le, a.le_hi⟩, ha⟩
  · rintro ⟨⟨hlo, hhi⟩, hn⟩
    exact ⟨⟨n, hlo, hhi⟩, rfl, hn⟩

/-- A date is read from its written form, and from no other text. -/
theorem apply_date_iff {year : Int} {month day : Nat} :
    (∃ d : Date, (d.year = year ∧ d.month = month ∧ d.day = day) ∧
      (Conversion.text Date).apply text = some d) ↔
      Calendar.IsDay year month day ∧ Date.IsWritten year month day text.toList := by
  have happly (d : Date) : (Conversion.text Date).apply text = some d ↔
      Date.IsWritten d.year d.month d.day text.toList := by
    rw [Date.isWritten_iff]
    exact TextForm.canonical?_eq_some_iff.trans eq_ofList_iff
  simp only [happly]
  constructor
  · rintro ⟨d, ⟨rfl, rfl, rfl⟩, hd⟩
    exact ⟨d.isDay, hd⟩
  · rintro ⟨hday, hd⟩
    exact ⟨⟨year, month, day, hday⟩, ⟨rfl, rfl, rfl⟩, hd⟩

/-- Every value of a lawful text form reads back from its own text. -/
theorem unapply_bind_apply {α : Type} [TextForm α] [LawfulTextForm α] (a : α) :
    ((Conversion.text α).unapply a).bind (Conversion.text α).apply = some a :=
  faithful_text a _ rfl

/-- Text conversions accept the canonical texts only: of an integer of some binary digits, with or without a
sign, the shortest decimal form; of a day of the calendar the written form. Every value reads back. -/
theorem accepts_canonical :
    (∀ (bits : Nat) (text : String) (n : Int),
      (∃ a : Unsigned bits, a.val = n ∧ (Conversion.text (Unsigned bits)).apply text = some a) ↔
        (0 ≤ n ∧ n < 2 ^ bits) ∧ Decimal.IsShortest n text.toList) ∧
    (∀ (bits : Nat) (text : String) (n : Int),
      (∃ a : Signed bits, a.val = n ∧ (Conversion.text (Signed bits)).apply text = some a) ↔
        (-2 ^ (bits - 1) ≤ n ∧ n < 2 ^ (bits - 1)) ∧ Decimal.IsShortest n text.toList) ∧
    (∀ (text : String) (year : Int) (month day : Nat),
      (∃ d : Date, (d.year = year ∧ d.month = month ∧ d.day = day) ∧
        (Conversion.text Date).apply text = some d) ↔
          Calendar.IsDay year month day ∧ Date.IsWritten year month day text.toList) ∧
    (∀ (bits : Nat) (a : Unsigned bits),
      ((Conversion.text (Unsigned bits)).unapply a).bind (Conversion.text (Unsigned bits)).apply = some a) ∧
    (∀ (bits : Nat) (a : Signed bits),
      ((Conversion.text (Signed bits)).unapply a).bind (Conversion.text (Signed bits)).apply = some a) ∧
    ∀ d : Date, ((Conversion.text Date).unapply d).bind (Conversion.text Date).apply = some d := by
  have hpow (bits : Nat) : Int.pow 2 bits = 2 ^ bits := rfl
  refine ⟨fun bits text n => ?_, fun bits text n => ?_, fun _ _ _ _ => apply_date_iff,
    fun _ => unapply_bind_apply, fun _ => unapply_bind_apply, unapply_bind_apply⟩
  · rw [apply_ranged_iff, hpow, Int.le_sub_one_iff]
  · rw [apply_ranged_iff, hpow, Int.le_sub_one_iff]

/-- Numbers beyond the range are not wrapped, and no other spelling is read. -/
example : ["128", "-129", "+7", "07", "-0", " 7", "7 ", ""].map (Conversion.text (Signed 8)).apply =
    List.replicate 8 none := by
  decide

end Signpost.Conversion

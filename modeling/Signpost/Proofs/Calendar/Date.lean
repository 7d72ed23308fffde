import Mathlib.Data.List.TakeWhile
import Mathlib.Tactic.Common
import Signpost.Calendar.Date
import Signpost.Proofs.Text.Ascii
import Signpost.Proofs.Text.Decimal

/-!
# Written dates

Every date reads back from its written form, whatever the year.

* `number?_append`: a run of digits is read up to its limit, or up to where it ends.
* `value?_padded`: zeros in front do not change a number.
* `read?_write`: the three numbers are read one after another.
* `isWritten_iff`: the written form is the only text with a year, a month and a day as they are written.
-/

namespace Signpost

namespace Date

/-! ## Numbers -/

theorem isDigit_of_mem_padded {width n : Nat} {c : Char} (h : c ∈ padded width n) :
    c.isDigit = true := by
  rcases List.mem_append.1 h with h | h
  · rw [List.eq_of_mem_replicate h]
    rfl
  · exact Decimal.isDigit_of_mem_digits h

theorem padded_ne_nil (width n : Nat) : padded width n ≠ [] := by
  intro h
  exact Decimal.digits_ne_nil n (List.append_eq_nil_iff.1 h).2

theorem ofDigitChars_padded (width n : Nat) : Nat.ofDigitChars 10 (padded width n) 0 = n := by
  rw [padded, Nat.ofDigitChars_append, Nat.ofDigitChars_replicate_zero, Nat.mul_zero, Decimal.digits,
    Nat.ofDigitChars_ten_toDigits]

theorem value?_padded (width n : Nat) : Decimal.value? (padded width n) = some n := by
  have hall : (padded width n).all Char.isDigit = true :=
    List.all_eq_true.2 fun _ hc => isDigit_of_mem_padded hc
  rw [Decimal.value?, if_pos ⟨padded_ne_nil width n, hall⟩, ofDigitChars_padded]

/-- A number with enough digits of its own or in front of it is as long as asked for. -/
theorem length_padded {width n : Nat} (h : (Decimal.digits n).length ≤ width) :
    (padded width n).length = width := by
  rw [padded, List.length_append, List.length_replicate]
  omega

/-- A run of digits is read whole if it is as long as allowed, or shorter and something else follows. -/
theorem number?_append {limit : Nat} {ds rest : List Char} {n : Nat} (hds : ∀ c ∈ ds, c.isDigit = true)
    (hn : Decimal.value? ds = some n)
    (hend : ds.length = limit ∨ ds.length ≤ limit ∧ ∀ c ∈ rest.head?, c.isDigit = false) :
    number? limit (ds ++ rest) = some (n, rest) := by
  have hrun : ((ds ++ rest).take limit).takeWhile Char.isDigit = ds := by
    rcases hend with rfl | ⟨hle, hhead⟩
    · rw [List.take_left, List.takeWhile_eq_self_iff]
      exact hds
    · rw [List.take_append, List.take_of_length_le hle, List.takeWhile_append_of_pos hds]
      cases rest with
      | nil => simp
      | cons c rest =>
        have hc : c.isDigit = false := hhead c rfl
        cases hk : limit - ds.length <;> simp [hc]
  rw [number?, hrun, hn]
  simp

/-! ## Parts of a date -/

theorem skipBlanks_cons {c : Char} (hc : isBlank c = false) (cs : List Char) :
    skipBlanks (c :: cs) = c :: cs := by
  rw [skipBlanks, List.dropWhile_cons_of_neg (by simp [hc])]

theorem skipBlanks_padded (width n : Nat) (rest : List Char) :
    skipBlanks (padded width n ++ rest) = padded width n ++ rest := by
  obtain ⟨c, cs, hcs⟩ := List.exists_cons_of_ne_nil (padded_ne_nil width n)
  have hmem : c ∈ padded width n := by simp [hcs]
  have hc : c.isDigit = true := isDigit_of_mem_padded hmem
  rw [hcs]
  exact skipBlanks_cons (not_isBlank_of_isDigit hc) _

theorem number?_padded {width n : Nat} (h : (Decimal.digits n).length ≤ width) (rest : List Char) :
    number? width (padded width n ++ rest) = some (n, rest) :=
  number?_append (fun _ hc => isDigit_of_mem_padded hc) (value?_padded width n)
    (.inl (length_padded h))

theorem number?_signed (n : Nat) (rest : List Char) :
    number? (padded 4 n ++ '-' :: rest).length (padded 4 n ++ '-' :: rest) = some (n, '-' :: rest) := by
  refine number?_append (fun _ hc => isDigit_of_mem_padded hc) (value?_padded 4 n) (.inr ⟨?_, ?_⟩)
  · rw [List.length_append]
    omega
  · intro c hc
    cases hc
    rfl

theorem year?_writeYear (year : Int) (rest : List Char) :
    year? (writeYear year ++ '-' :: rest) = some (year, '-' :: rest) := by
  unfold writeYear
  split_ifs with hneg hshort
  · have hn : -Int.ofNat year.natAbs = year := by
      show -(year.natAbs : Int) = year
      omega
    rw [List.cons_append, year?, number?_signed, Option.map_some]
    simp only [hn]
  · have hn : Int.ofNat year.natAbs = year := Int.natAbs_of_nonneg (by omega)
    have hdigits : (Decimal.digits year.natAbs).length ≤ 4 :=
      (Nat.length_toDigits_le_iff (by decide) (by decide)).2 (by omega)
    obtain ⟨c, cs, hcs⟩ := List.exists_cons_of_ne_nil (padded_ne_nil 4 year.natAbs)
    have hmem : c ∈ padded 4 year.natAbs := by simp [hcs]
    have hc : c.isDigit = true := isDigit_of_mem_padded hmem
    have hnumber := number?_padded hdigits ('-' :: rest)
    have hminus : c ≠ '-' := by rintro rfl; revert hc; decide
    have hplus : c ≠ '+' := by rintro rfl; revert hc; decide
    rw [hcs, List.cons_append] at hnumber ⊢
    rw [year?, hnumber, Option.map_some]
    · simp only [hn]
    · rintro cs' h
      exact hminus (List.cons.inj h).1
    · rintro cs' h
      exact hplus (List.cons.inj h).1
  · have hn : Int.ofNat year.natAbs = year := Int.natAbs_of_nonneg (by omega)
    rw [List.cons_append, year?, number?_signed, Option.map_some]
    simp only [hn]

theorem skipBlanks_writeYear (year : Int) (rest : List Char) :
    skipBlanks (writeYear year ++ rest) = writeYear year ++ rest := by
  unfold writeYear
  split_ifs
  · exact skipBlanks_cons (by decide) _
  · exact skipBlanks_padded _ _ rest
  · exact skipBlanks_cons (by decide) _

theorem dash?_cons (rest : List Char) : dash? ('-' :: rest) = some rest := by
  rw [dash?, skipBlanks_cons (by decide)]
  rfl

/-! ## Whole dates -/

theorem length_digits_le_two {n : Nat} (h : n < 100) : (Decimal.digits n).length ≤ 2 :=
  (Nat.length_toDigits_le_iff (by decide) (by decide)).2 h

theorem month_lt {year : Int} {month day : Nat} (h : Calendar.IsDay year month day) : month < 100 := by
  obtain ⟨-, -, hday, hle⟩ := h
  by_contra hm
  have hzero : Calendar.daysIn year month = 0 := by
    unfold Calendar.daysIn
    split <;> omega
  omega

theorem day_lt {year : Int} {month day : Nat} (h : Calendar.IsDay year month day) : day < 100 := by
  obtain ⟨-, -, -, hle⟩ := h
  have hmax : Calendar.daysIn year month ≤ 31 := by
    have hfebruary : (if Calendar.isLeap year then 29 else 28) ≤ 31 := by
      split_ifs <;> omega
    unfold Calendar.daysIn
    split <;> omega
  omega

/-- A written date reads back. -/
theorem read?_write (d : Date) : read? d.write = some d := by
  have hday := number?_padded (length_digits_le_two (day_lt d.isDay)) []
  rw [List.append_nil] at hday
  have hskip := skipBlanks_padded 2 d.day []
  rw [List.append_nil] at hskip
  rw [read?, write, skipBlanks_writeYear, year?_writeYear]
  simp only [Option.bind_eq_bind, Option.bind_some, dash?_cons, skipBlanks_padded,
    number?_padded (length_digits_le_two (month_lt d.isDay)), hskip, hday]
  rw [skipBlanks, List.dropWhile_nil, if_pos rfl, of?, dif_pos d.isDay]

instance : LawfulTextForm Date where
  read?_write d := by
    show read? (String.ofList d.write).toList = some d
    rw [String.toList_ofList, read?_write]

/-! ## Written forms -/

theorem isNumeral_padded {width : Nat} (hwidth : 0 < width) (n : Nat) :
    Decimal.IsNumeral width n (padded width n) := by
  have hlength : (padded width n).length = (width - (Decimal.digits n).length) + (Decimal.digits n).length := by
    rw [padded, List.length_append, List.length_replicate]
  refine ⟨fun _ => isDigit_of_mem_padded, ofDigitChars_padded width n, by omega, fun hlong => ?_⟩
  -- nothing stands in front of more digits than asked for, and they are not those of zero
  have hfront : width - (Decimal.digits n).length = 0 := by omega
  rw [padded, hfront, List.replicate_zero, List.nil_append]
  refine Decimal.head?_digits ?_
  rintro rfl
  have hone : (Decimal.digits 0).length = 1 := rfl
  omega

/-- A number has one numeral of a width. -/
theorem isNumeral_iff {width n : Nat} (hwidth : 0 < width) {cs : List Char} :
    Decimal.IsNumeral width n cs ↔ cs = padded width n :=
  ⟨fun h => h.unique (isNumeral_padded hwidth n), fun h => h ▸ isNumeral_padded hwidth n⟩

/-- The text of a year: four digits, or more behind a sign outside 0 to 9999. -/
inductive IsYear : Int → List Char → Prop
  | plain {n : Nat} (hn : n ≤ 9999) {ds : List Char} (h : Decimal.IsNumeral 4 n ds) : IsYear n ds
  | neg {n : Nat} (hn : 0 < n) {ds : List Char} (h : Decimal.IsNumeral 4 n ds) : IsYear (-n) ('-' :: ds)
  | late {n : Nat} (hn : 9999 < n) {ds : List Char} (h : Decimal.IsNumeral 4 n ds) : IsYear n ('+' :: ds)

theorem isYear_iff {year : Int} {cs : List Char} : IsYear year cs ↔ cs = writeYear year := by
  unfold writeYear
  constructor
  · intro h
    cases h with
    | plain hn h =>
      rw [if_neg (by omega), if_pos (by omega), Int.natAbs_natCast, (isNumeral_iff (by decide)).1 h]
    | neg hn h => rw [if_pos (by omega), Int.natAbs_neg, Int.natAbs_natCast, (isNumeral_iff (by decide)).1 h]
    | late hn h =>
      rw [if_neg (by omega), if_neg (by omega), Int.natAbs_natCast, (isNumeral_iff (by decide)).1 h]
  · rintro rfl
    split_ifs with hneg hshort
    · obtain ⟨n, rfl⟩ : ∃ n : Nat, year = -n := ⟨year.natAbs, by omega⟩
      rw [Int.natAbs_neg, Int.natAbs_natCast]
      exact .neg (by omega) (isNumeral_padded (by decide) n)
    · obtain ⟨n, rfl⟩ : ∃ n : Nat, year = n := ⟨year.natAbs, by omega⟩
      rw [Int.natAbs_natCast]
      exact .plain (by omega) (isNumeral_padded (by decide) n)
    · obtain ⟨n, rfl⟩ : ∃ n : Nat, year = n := ⟨year.natAbs, by omega⟩
      rw [Int.natAbs_natCast]
      exact .late (by omega) (isNumeral_padded (by decide) n)

/-- The text of a year, a month and a day, with two digits for the month and for the day. -/
def IsWritten (year : Int) (month day : Nat) (cs : List Char) : Prop :=
  ∃ ys ms ds, IsYear year ys ∧ Decimal.IsNumeral 2 month ms ∧ Decimal.IsNumeral 2 day ds ∧
    cs = ys ++ '-' :: (ms ++ '-' :: ds)

/-- A date has one written form. -/
theorem isWritten_iff {d : Date} {cs : List Char} : IsWritten d.year d.month d.day cs ↔ cs = d.write := by
  simp only [IsWritten, isYear_iff, isNumeral_iff (by decide : 0 < 2), exists_and_left, exists_eq_left, write]

end Date

end Signpost

import Mathlib.Algebra.Group.Nat.Defs
import Mathlib.Tactic.Common
import Signpost.Proofs.Text.Ascii
import Signpost.Text.Decimal
import Signpost.Text.Utf8

/-!
# Decimal digits

* `encode_digits`: digits are encoded as one byte each.
* `head?_digits`: only zero is written with a zero in front.
* `IsNumeral`: the texts that write a number in digits of a width. `IsNumeral.unique`: there is one.
* `isShortest_iff`: an integer is written in its shortest decimal form.
-/

namespace Signpost

namespace Utf8

theorem encodeChar_of_lt {c : Char} (h : c.toNat < 128) :
    String.utf8EncodeChar c = [UInt8.ofNat c.toNat] := by
  have all : ∀ n : Fin 128, String.utf8EncodeChar (Char.ofNat n) = [UInt8.ofNat (Char.ofNat n).toNat] := by
    decide
  exact of_toNat_lt_128 (P := fun c => String.utf8EncodeChar c = [UInt8.ofNat c.toNat]) all h

/-- A text of ASCII characters has one byte for each. -/
theorem encode_of_forall_lt {cs : List Char} (h : ∀ c ∈ cs, c.toNat < 128) :
    encode cs = cs.map fun c => UInt8.ofNat c.toNat := by
  induction cs with
  | nil => rfl
  | cons c cs ih =>
    rw [encode_cons, encodeChar_of_lt (h c (by simp)), ih fun x hx => h x (by simp [hx])]
    rfl

end Utf8

namespace Decimal

/-! ## Digits as characters and as bytes -/

theorem toNat_lt_of_mem_digits {n : Nat} {c : Char} (h : c ∈ digits n) : c.toNat < 128 :=
  toNat_lt_of_isAlphanum (by rw [Char.isAlphanum, isDigit_of_mem_digits h, Bool.or_true])

/-- Digits are encoded as one byte each. -/
theorem encode_digits (n : Nat) :
    Utf8.encode (digits n) = (digits n).map fun c => UInt8.ofNat c.toNat :=
  Utf8.encode_of_forall_lt fun _ hc => toNat_lt_of_mem_digits hc

/-- Only zero has a zero in front. -/
theorem head?_digits {n : Nat} (hn : n ≠ 0) : (digits n).head? ≠ some '0' := by
  induction n using Nat.strongRecOn with
  | ind n ih =>
    rcases Nat.lt_or_ge n 10 with hlt | hge
    · have all : ∀ n : Fin 10, (n : Nat) ≠ 0 → (digits n).head? ≠ some '0' := by decide
      exact all ⟨n, hlt⟩ hn
    · have hdiv : n / 10 ≠ 0 := by omega
      obtain ⟨c, cs, hcs⟩ := List.exists_cons_of_ne_nil (digits_ne_nil (n / 10))
      have hrec := ih (n / 10) (by omega) hdiv
      rw [hcs] at hrec
      rw [digits, Nat.toDigits_of_base_le (by decide) hge, ← digits, hcs]
      exact hrec

/-! ## Values of digits -/

theorem ofDigitChars_cons_zero (c : Char) (cs : List Char) :
    Nat.ofDigitChars 10 (c :: cs) 0 = 10 ^ cs.length * (c.toNat - '0'.toNat) + Nat.ofDigitChars 10 cs 0 := by
  rw [Nat.ofDigitChars_cons, Nat.ofDigitChars_eq_ofDigitChars_zero, Nat.mul_zero, Nat.zero_add]

/-- A run of digits stands for less than a one with as many zeros. -/
theorem ofDigitChars_lt {cs : List Char} (h : ∀ c ∈ cs, c.isDigit = true) :
    Nat.ofDigitChars 10 cs 0 < 10 ^ cs.length := by
  induction cs with
  | nil => exact Nat.one_pos
  | cons c cs ih =>
    have hrest := ih fun x hx => h x (List.mem_cons_of_mem c hx)
    have hdigit : c.toNat - '0'.toNat ≤ 9 :=
      Nat.sub_le_sub_right (Char.isDigit_iff_toNat.1 (h c List.mem_cons_self)).2 _
    calc Nat.ofDigitChars 10 (c :: cs) 0
      _ = 10 ^ cs.length * (c.toNat - '0'.toNat) + Nat.ofDigitChars 10 cs 0 := ofDigitChars_cons_zero c cs
      _ < 10 ^ cs.length * 9 + 10 ^ cs.length :=
        Nat.add_lt_add_of_le_of_lt (Nat.mul_le_mul_left _ hdigit) hrest
      _ = 10 ^ (c :: cs).length := by rw [List.length_cons, Nat.pow_succ]; omega

/-- A run of digits that does not begin with a zero stands for at least a one with zeros behind it. -/
theorem le_ofDigitChars {c : Char} {cs : List Char} (hc : c.isDigit = true) (hzero : c ≠ '0') :
    10 ^ cs.length ≤ Nat.ofDigitChars 10 (c :: cs) 0 := by
  have hle := (Char.isDigit_iff_toNat.1 hc).1
  have hne : c.toNat ≠ '0'.toNat := fun h => hzero (Char.toNat_inj.1 h)
  have hdigit : 1 ≤ c.toNat - '0'.toNat := by omega
  calc 10 ^ cs.length
    _ ≤ 10 ^ cs.length * (c.toNat - '0'.toNat) := Nat.le_mul_of_pos_right _ hdigit
    _ ≤ 10 ^ cs.length * (c.toNat - '0'.toNat) + Nat.ofDigitChars 10 cs 0 := Nat.le_add_right _ _
    _ = Nat.ofDigitChars 10 (c :: cs) 0 := (ofDigitChars_cons_zero c cs).symm

/-- Runs of digits of one length that stand for the same number are the same. -/
theorem eq_of_ofDigitChars_eq {cs ds : List Char} (hcs : ∀ c ∈ cs, c.isDigit = true)
    (hds : ∀ d ∈ ds, d.isDigit = true) (hlength : cs.length = ds.length)
    (hvalue : Nat.ofDigitChars 10 cs 0 = Nat.ofDigitChars 10 ds 0) : cs = ds := by
  induction cs generalizing ds with
  | nil => exact (List.length_eq_zero_iff.1 hlength.symm).symm
  | cons c cs ih =>
    obtain ⟨d, ds, rfl⟩ := List.exists_cons_of_length_eq_add_one hlength.symm
    have hrest : cs.length = ds.length := Nat.succ.inj hlength
    have hltc := ofDigitChars_lt fun x hx => hcs x (List.mem_cons_of_mem c hx)
    have hltd := ofDigitChars_lt fun x hx => hds x (List.mem_cons_of_mem d hx)
    have hc := Char.isDigit_iff_toNat.1 (hcs c List.mem_cons_self)
    have hd := Char.isDigit_iff_toNat.1 (hds d List.mem_cons_self)
    rw [ofDigitChars_cons_zero, ofDigitChars_cons_zero, hrest] at hvalue
    rw [hrest] at hltc
    have hfirst : c.toNat - '0'.toNat = d.toNat - '0'.toNat := by
      have hquotient := congrArg (· / 10 ^ ds.length) hvalue
      simpa only [Nat.mul_add_div (Nat.pow_pos (by decide : 0 < 10)), Nat.div_eq_of_lt hltc,
        Nat.div_eq_of_lt hltd, Nat.add_zero] using hquotient
    have hchar : c = d := Char.toNat_inj.1 (by omega)
    rw [hfirst] at hvalue
    rw [hchar, ih (fun x hx => hcs x (List.mem_cons_of_mem c hx)) (fun x hx => hds x (List.mem_cons_of_mem d hx))
      hrest (Nat.add_left_cancel hvalue)]

/-! ## Numerals -/

/-- The text writes a number in decimal digits: `width` of them, with zeros in front, or as many more as it
takes. -/
structure IsNumeral (width n : Nat) (cs : List Char) : Prop where
  isDigit : ∀ c ∈ cs, c.isDigit = true
  value : Nat.ofDigitChars 10 cs 0 = n
  width_le : width ≤ cs.length
  head? : width < cs.length → cs.head? ≠ some '0'

variable {width n : Nat} {cs ds : List Char}

/-- The longer of two numerals would stand for the greater number. -/
theorem IsNumeral.length_le (hcs : IsNumeral width n cs) (hds : IsNumeral width n ds) :
    cs.length ≤ ds.length := by
  by_contra hlt
  have hwidth : width < cs.length := by have := hds.width_le; omega
  obtain ⟨c, cs, rfl⟩ := List.exists_cons_of_length_pos (Nat.zero_lt_of_lt hwidth)
  have hhead := hcs.head? hwidth
  have hzero : c ≠ '0' := fun h => hhead (by rw [h]; rfl)
  have hle : 10 ^ cs.length ≤ Nat.ofDigitChars 10 (c :: cs) 0 :=
    le_ofDigitChars (hcs.isDigit c List.mem_cons_self) hzero
  have hpow : 10 ^ ds.length ≤ 10 ^ cs.length :=
    Nat.pow_le_pow_right (by decide) (by rw [List.length_cons] at hlt; omega)
  have hupper := ofDigitChars_lt hds.isDigit
  rw [hcs.value] at hle
  rw [hds.value] at hupper
  omega

/-- A number has one numeral of a width. -/
theorem IsNumeral.unique (hcs : IsNumeral width n cs) (hds : IsNumeral width n ds) : cs = ds :=
  eq_of_ofDigitChars_eq hcs.isDigit hds.isDigit (Nat.le_antisymm (hcs.length_le hds) (hds.length_le hcs))
    (hcs.value.trans hds.value.symm)

theorem isNumeral_digits (n : Nat) : IsNumeral 1 n (digits n) where
  isDigit _ hc := isDigit_of_mem_digits hc
  value := Nat.ofDigitChars_ten_toDigits
  width_le := List.length_pos_iff.2 (digits_ne_nil n)
  head? hlong := by
    refine head?_digits ?_
    rintro rfl
    exact absurd hlong (by decide)

/-- The shortest numeral of a number are its digits. -/
theorem isNumeral_one_iff : IsNumeral 1 n cs ↔ cs = digits n :=
  ⟨fun h => h.unique (isNumeral_digits n), fun h => h ▸ isNumeral_digits n⟩

/-- The text is the shortest decimal form of an integer: digits without a zero in front, behind a minus sign
if the integer is negative. -/
inductive IsShortest : Int → List Char → Prop
  | nonneg {n : Nat} {ds : List Char} (h : IsNumeral 1 n ds) : IsShortest n ds
  | neg {n : Nat} (hn : 0 < n) {ds : List Char} (h : IsNumeral 1 n ds) : IsShortest (-n) ('-' :: ds)

/-- Integers are written in their shortest form. -/
theorem isShortest_iff {n : Int} : IsShortest n cs ↔ cs = integer n := by
  unfold integer
  constructor
  · intro h
    cases h with
    | nonneg h => rw [if_neg (by omega), Int.natAbs_natCast, isNumeral_one_iff.1 h]
    | neg hn h => rw [if_pos (by omega), Int.natAbs_neg, Int.natAbs_natCast, isNumeral_one_iff.1 h]
  · rintro rfl
    split_ifs with hn
    · obtain ⟨m, rfl⟩ : ∃ m : Nat, n = -m := ⟨n.natAbs, by omega⟩
      rw [Int.natAbs_neg, Int.natAbs_natCast]
      exact .neg (by omega) (isNumeral_digits m)
    · obtain ⟨m, rfl⟩ : ∃ m : Nat, n = m := ⟨n.natAbs, by omega⟩
      rw [Int.natAbs_natCast]
      exact .nonneg (isNumeral_digits m)

end Decimal

end Signpost

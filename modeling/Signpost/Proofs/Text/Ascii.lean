import Mathlib.Tactic.Common
import Signpost.Text.Blank

/-!
# ASCII characters

Facts about the characters below 128 are finitely many.

* `of_toNat_lt_128`: a fact holds of such a character if it holds of all 128.
* `not_isBlank_of_isDigit`: digits are no white space.
* `of_toLower`: a relation of characters to their lower cases holds if it holds of the 128.
* `toLower_toLower`: a character in lower case stays as it is.
-/

namespace Signpost

/-- A fact about a character below 128 is one of 128 facts. -/
theorem of_toNat_lt_128 {P : Char → Prop} (h : ∀ n : Fin 128, P (Char.ofNat n)) {c : Char}
    (hc : c.toNat < 128) : P c := by
  have := h ⟨c.toNat, hc⟩
  rwa [Char.ofNat_toNat] at this

theorem toNat_lt_of_isAlphanum {c : Char} (h : c.isAlphanum = true) : c.toNat < 128 := by
  unfold Char.isAlphanum Char.isAlpha Char.isUpper Char.isLower Char.isDigit at h
  simp only [Bool.or_eq_true, Bool.and_eq_true, decide_eq_true_eq, UInt32.le_iff_toNat_le] at h
  have h90 : 'Z'.val.toNat = 90 := rfl
  have h122 : 'z'.val.toNat = 122 := rfl
  have h57 : '9'.val.toNat = 57 := rfl
  have hv : c.val.toNat = c.toNat := rfl
  omega

theorem not_isBlank_of_isDigit {c : Char} (h : c.isDigit = true) : isBlank c = false := by
  have hlt : c.toNat < 128 := toNat_lt_of_isAlphanum (by rw [Char.isAlphanum, h, Bool.or_true])
  have all : ∀ n : Fin 128, (Char.ofNat n).isDigit = true → isBlank (Char.ofNat n) = false := by
    decide
  exact of_toNat_lt_128 (P := fun c => c.isDigit = true → isBlank c = false) all hlt h

/-- Only ASCII letters have a case. -/
theorem toLower_of_le {c : Char} (hc : 128 ≤ c.toNat) : c.toLower = c := by
  unfold Char.toLower
  rw [dif_neg]
  rintro ⟨-, hle⟩
  have hle' : c.toNat ≤ 90 := UInt32.le_iff_toNat_le.1 hle
  omega

/-- A relation to the lower case holds of all characters if it holds of the 128 and is reflexive. -/
theorem of_toLower {P : Char → Char → Prop} (h : ∀ n : Fin 128, P (Char.ofNat n) (Char.ofNat n).toLower)
    (hself : ∀ c, P c c) (c : Char) : P c c.toLower := by
  by_cases hc : c.toNat < 128
  · exact of_toNat_lt_128 (P := fun c => P c c.toLower) h hc
  · rw [toLower_of_le (by omega)]
    exact hself c

theorem toLower_toLower (c : Char) : c.toLower.toLower = c.toLower := by
  by_cases hc : c.toNat < 128
  · have all : ∀ n : Fin 128, (Char.ofNat n).toLower.toLower = (Char.ofNat n).toLower := by decide
    exact of_toNat_lt_128 (P := fun c => c.toLower.toLower = c.toLower) all hc
  · have hsame : c.toLower = c := toLower_of_le (by omega)
    rw [hsame, hsame]

end Signpost

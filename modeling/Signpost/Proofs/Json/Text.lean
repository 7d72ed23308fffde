import Mathlib.Data.List.TakeWhile
import Mathlib.Tactic.Common
import Signpost.Json.Reader
import Signpost.Proofs.Text.Decimal

/-!
# JSON texts and numbers read back

* `unescape?_escape`: an escaped text stands for its bytes.
* `scanText?_escape`: an escaped text is read up to the quote behind it.
* `isNumber_integer`: a written integer has the form of a number.
* `textOf?_escape`, `int?_ofInt`: texts and integers are read from their values.
-/

namespace Signpost.Json

/-! ## Characters that are kept -/

/-- A byte that stands in a text as it is. -/
def IsPlainByte (b : UInt8) : Prop := b ≠ quote ∧ b ≠ backslash ∧ ¬b < 0x20

theorem unescape?_plain {as : Bytes} (h : ∀ b ∈ as, IsPlainByte b) (bs : Bytes) :
    unescape? (as ++ bs) = (unescape? bs).map (as ++ ·) := by
  induction as with
  | nil => simp
  | cons a as ih =>
    have ha : a ≠ backslash := (h a (by simp)).2.1
    rw [List.cons_append, unescape?.eq_def]
    dsimp only
    rw [if_pos ha, ih fun b hb => h b (by simp [hb]), Option.map_map]
    rfl

theorem scanText?_plain {as : Bytes} (h : ∀ b ∈ as, IsPlainByte b) (bs : Bytes) :
    scanText? (as ++ bs) = (scanText? bs).map fun (written, rest) => (as ++ written, rest) := by
  induction as with
  | nil => simp
  | cons a as ih =>
    obtain ⟨hq, hb, hc⟩ := h a (by simp)
    rw [List.cons_append, scanText?.eq_def]
    dsimp only
    rw [if_neg hq, if_neg hc, if_pos hb, ih fun b hb => h b (by simp [hb]), Option.map_map]
    rfl

/-- A character without an escape has only bytes that are kept. -/
theorem isPlainByte_of_mem {c : Char} (hs : shortEscape? c = none) (hc : ¬c.toNat < 0x20) {b : UInt8}
    (hb : b ∈ String.utf8EncodeChar c) : IsPlainByte b := by
  have hascii (hlt : b.toNat < 128) : c = Char.ofNat b.toNat := Utf8.eq_ofNat_of_mem_encodeChar hb hlt
  refine ⟨?_, ?_, ?_⟩
  · rintro rfl
    rw [hascii (by decide)] at hs
    revert hs
    decide
  · rintro rfl
    rw [hascii (by decide)] at hs
    revert hs
    decide
  · intro hlt
    have hlt' : b.toNat < 0x20 := hlt
    have hvalid : (Char.ofNat b.toNat).toNat = b.toNat := by
      have all : ∀ n : Fin 32, (Char.ofNat n).toNat = n := by decide
      exact all ⟨b.toNat, hlt'⟩
    rw [hascii (by omega), hvalid] at hc
    exact hc hlt'

/-! ## Characters with an escape -/

/-- The two digits of a control character stand for its number. -/
theorem hexUnit?_control {c : Char} (hs : shortEscape? c = none) (hc : c.toNat < 0x20) :
    ∃ x y, escapeChar c = [backslash, 0x75, 0x30, 0x30, x, y] ∧
      hexUnit? 0x30 0x30 x y = some c.toNat := by
  have all : ∀ n : Fin 32, shortEscape? (Char.ofNat n) = none →
      escapeChar (Char.ofNat n) = [backslash, 0x75, 0x30, 0x30,
        (escapeChar (Char.ofNat n)).getD 4 0, (escapeChar (Char.ofNat n)).getD 5 0] ∧
      hexUnit? 0x30 0x30 ((escapeChar (Char.ofNat n)).getD 4 0)
        ((escapeChar (Char.ofNat n)).getD 5 0) = some (n : Nat) := by
    decide
  have h := all ⟨c.toNat, hc⟩
  rw [Char.ofNat_toNat] at h
  exact ⟨_, _, h hs⟩

/-- An escaped character stands for its bytes. -/
theorem unescape?_escapeChar (c : Char) (bs : Bytes) :
    unescape? (escapeChar c ++ bs) = (unescape? bs).map (String.utf8EncodeChar c ++ ·) := by
  rcases hs : shortEscape? c with _ | letter
  · by_cases hc : c.toNat < 0x20
    · obtain ⟨x, y, hw, hx⟩ := hexUnit?_control hs hc
      have hunit : c.toNat < 0xD800 ∨ 0xDFFF < c.toNat := .inl (by omega)
      rw [hw]
      show unescape? (0x5C :: 0x75 :: 0x30 :: 0x30 :: x :: y :: bs) = _
      rw [unescape?.eq_def]
      dsimp only
      rw [if_neg (by decide)]
      simp only [hx, if_pos hunit, Char.ofNat_toNat]
    · rw [escapeChar, hs]
      dsimp only
      rw [if_neg hc]
      exact unescape?_plain (fun b hb => isPlainByte_of_mem hs hc hb) bs
  · rw [escapeChar, hs]
    unfold shortEscape? at hs
    split at hs
    case h_8 => cases hs
    all_goals
      rename_i hn
      cases hs
      rw [← Utf8.ofNat_of_toNat_eq hn.symm]
      rfl

theorem scanText?_escapeChar (c : Char) (bs : Bytes) :
    scanText? (escapeChar c ++ bs) =
      (scanText? bs).map fun (written, rest) => (escapeChar c ++ written, rest) := by
  rcases hs : shortEscape? c with _ | letter
  · by_cases hc : c.toNat < 0x20
    · obtain ⟨x, y, hw, hx⟩ := hexUnit?_control hs hc
      have hunit : (hexUnit? 0x30 0x30 x y).isSome = true := by
        rw [hx]
        rfl
      rw [hw]
      show scanText? (0x5C :: 0x75 :: 0x30 :: 0x30 :: x :: y :: bs) = _
      rw [scanText?.eq_def]
      dsimp only
      rw [if_neg (by decide), if_neg (by decide), if_neg (by decide)]
      show (if (hexUnit? 0x30 0x30 x y).isSome = true then _ else none) = _
      rw [if_pos hunit]
      rfl
    · rw [escapeChar, hs]
      dsimp only
      rw [if_neg hc]
      exact scanText?_plain (fun b hb => isPlainByte_of_mem hs hc hb) bs
  · rw [escapeChar, hs]
    unfold shortEscape? at hs
    split at hs
    case h_8 => cases hs
    all_goals
      cases hs
      rfl

/-! ## Texts -/

theorem unescape?_escape (cs : List Char) : unescape? (escape cs) = some (Utf8.encode cs) := by
  induction cs with
  | nil => rfl
  | cons c cs ih =>
    rw [escape, List.flatMap_cons, unescape?_escapeChar, ← escape, ih, Option.map_some,
      Utf8.encode_cons]

/-- An escaped text is read up to its quote. -/
theorem scanText?_escape (cs : List Char) (rest : Bytes) :
    scanText? (escape cs ++ quote :: rest) = some (escape cs, rest) := by
  induction cs with
  | nil =>
    show scanText? (quote :: rest) = some ([], rest)
    rw [scanText?.eq_def]
    exact if_pos rfl
  | cons c cs ih =>
    rw [escape, List.flatMap_cons, List.append_assoc, scanText?_escapeChar, ← escape, ih]
    rfl

/-- An escaped text is read as that text. -/
theorem textOf?_escape (text : String) : textOf? (escape text.toList) = some text := by
  rw [textOf?, unescape?_escape, Option.bind_some, Utf8.decode?_encode, Option.map_some,
    String.ofList_toList]

theorem text?_ofText (text : String) : (ofText text).text? = some text := textOf?_escape text

/-! ## Integers -/

theorem isDigit_of_mem_encode_digits {n : Nat} {b : UInt8} (h : b ∈ Utf8.encode (Decimal.digits n)) :
    isDigit b = true := by
  rw [Decimal.encode_digits] at h
  obtain ⟨c, hc, rfl⟩ := List.mem_map.1 h
  have all : ∀ n : Fin 128, (Char.ofNat n).isDigit = true →
      isDigit (UInt8.ofNat (Char.ofNat n).toNat) = true := by
    decide
  exact of_toNat_lt_128 (P := fun c => c.isDigit = true → isDigit (UInt8.ofNat c.toNat) = true) all
    (Decimal.toNat_lt_of_mem_digits hc) (Decimal.isDigit_of_mem_digits hc)

theorem encode_digits_ne_nil (n : Nat) : Utf8.encode (Decimal.digits n) ≠ [] := by
  rw [Decimal.encode_digits]
  exact fun h => Decimal.digits_ne_nil n (List.map_eq_nil_iff.1 h)

/-- Digits have no zero in front but of zero itself. -/
theorem head?_encode_digits (n : Nat) :
    (Utf8.encode (Decimal.digits n)).head? ≠ some 0x30 ∨ (Utf8.encode (Decimal.digits n)).length = 1 := by
  by_cases hn : n = 0
  · subst hn
    exact .inr (by decide)
  · refine .inl fun h => ?_
    obtain ⟨c, cs, hcs⟩ := List.exists_cons_of_ne_nil (Decimal.digits_ne_nil n)
    have hc : c.toNat < 128 := Decimal.toNat_lt_of_mem_digits (n := n) (by simp [hcs])
    have hne : c ≠ '0' := by
      rintro rfl
      exact Decimal.head?_digits hn (by rw [hcs]; rfl)
    rw [Decimal.encode_digits, hcs, List.map_cons, List.head?_cons, Option.some.injEq] at h
    have all : ∀ n : Fin 128, UInt8.ofNat (Char.ofNat n).toNat = 0x30 → Char.ofNat n = '0' := by decide
    exact hne (of_toNat_lt_128 (P := fun c => UInt8.ofNat c.toNat = 0x30 → c = '0') all hc h)

theorem isNumber_of_takeWhile {bytes ds : Bytes}
    (hds : (if bytes.head? = some 0x2D then bytes.tail else bytes) = ds)
    (htake : ds.takeWhile isDigit = ds) (hne : ds ≠ []) (hhead : ds.head? ≠ some 0x30 ∨ ds.length = 1) :
    isNumber bytes = true := by
  have hempty : ds.isEmpty = false := by
    rw [Bool.eq_false_iff]
    exact fun h => hne (List.isEmpty_iff.1 h)
  simp only [isNumber, hds, htake, hempty, List.drop_length, isFractionPart, isExponentPart,
    Bool.not_false, Bool.true_and, Bool.and_true, Bool.or_eq_true, decide_eq_true_eq]
  exact hhead

/-- A written integer is a number. -/
theorem isNumber_integer (n : Int) : isNumber (Utf8.encode (Decimal.integer n)) = true := by
  have htake : (Utf8.encode (Decimal.digits n.natAbs)).takeWhile isDigit =
      Utf8.encode (Decimal.digits n.natAbs) :=
    List.takeWhile_eq_self_iff.2 fun b hb => isDigit_of_mem_encode_digits hb
  have hminus : (Utf8.encode (Decimal.digits n.natAbs)).head? ≠ some 0x2D := by
    intro h
    have hdigit := isDigit_of_mem_encode_digits (List.mem_of_mem_head? h)
    revert hdigit
    decide
  refine isNumber_of_takeWhile ?_ htake (encode_digits_ne_nil _) (head?_encode_digits _)
  unfold Decimal.integer
  split_ifs with hn hhead
  · rfl
  · exact absurd rfl hhead
  · rfl

theorem isNumberByte_of_mem_integer {n : Int} {b : UInt8} (h : b ∈ Utf8.encode (Decimal.integer n)) :
    isNumberByte b = true := by
  have hdigit (hb : b ∈ Utf8.encode (Decimal.digits n.natAbs)) : isNumberByte b = true := by
    rw [isNumberByte, isDigit_of_mem_encode_digits hb]
    rfl
  unfold Decimal.integer at h
  split_ifs at h
  · rw [Utf8.encode_cons] at h
    rcases List.mem_append.1 h with h | h
    · have hb : b = 0x2D := List.mem_singleton.1 h
      rw [hb]
      decide
    · exact hdigit h
  · exact hdigit h

/-- A written integer is read as that integer. -/
theorem int?_ofInt (n : Int) : (ofInt n).int? = some n := by
  have hread : (Utf8.decode? (Utf8.encode (Decimal.integer n))).bind (Decimal.readInteger? true) =
      some n := by
    rw [Utf8.decode?_encode, Option.bind_some, Decimal.readInteger?_integer true (.inr rfl)]
  have hzero : ¬(n = 0 ∧ (Utf8.encode (Decimal.integer n)).length ≠ 1) := by
    rintro ⟨rfl, h⟩
    exact h (by decide)
  rw [ofInt, int?]
  simp only [hread, if_neg hzero]

end Signpost.Json

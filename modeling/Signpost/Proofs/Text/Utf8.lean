import Mathlib.Tactic.Common
import Signpost.Text.Utf8

/-!
# Decoded bytes

Bytes that are decoded are the encoding of their text: no overlong form, no surrogate and no number past
U+10FFFF is taken for a character.

* `Utf8.Finishes`: the bytes that finish a begun character, read one after another.
* `encodes_start`: a first byte and the bytes that finish it are the encoding of the character.
* `decode?_eq_some_iff`: the bytes that decode to a text are its encoding and no others.
-/

namespace Signpost.Utf8

/-! ## Encodings by their length -/

theorem encodeChar_ofNat {n : Nat} (h : n.isValidChar) :
    String.utf8EncodeChar (Char.ofNat n) =
      if n ≤ 0x7F then [UInt8.ofNat n]
      else if n ≤ 0x7FF then [UInt8.ofNat (n / 64 % 32 + 192), UInt8.ofNat (n % 64 + 128)]
      else if n ≤ 0xFFFF then
        [UInt8.ofNat (n / 4096 % 16 + 224), UInt8.ofNat (n / 64 % 64 + 128), UInt8.ofNat (n % 64 + 128)]
      else [UInt8.ofNat (n / 262144 % 8 + 240), UInt8.ofNat (n / 4096 % 64 + 128),
        UInt8.ofNat (n / 64 % 64 + 128), UInt8.ofNat (n % 64 + 128)] := by
  have hv : (Char.ofNat n).val.toNat = n := by
    rw [Char.ofNat, dif_pos h]
    rfl
  unfold String.utf8EncodeChar
  simp only [hv]

/-- A byte is written for the number that it has. -/
theorem ofNat_eq {b : UInt8} {n : Nat} (h : n = b.toNat) : UInt8.ofNat n = b := by
  rw [h, UInt8.ofNat_toNat]

/-! ## Begun characters -/

/-- The bytes finish a begun character as this one. -/
inductive Finishes : Pending → Bytes → Char → Prop
  | last {value low high : Nat} {b : UInt8} (hl : low ≤ b.toNat) (hh : b.toNat ≤ high) :
      Finishes ⟨value, low, high, 0⟩ [b] (Char.ofNat (value * 64 + (b.toNat - 0x80)))
  | more {value low high more : Nat} {b : UInt8} {bs : Bytes} {c : Char} (hl : low ≤ b.toNat)
      (hh : b.toNat ≤ high)
      (h : Finishes ⟨value * 64 + (b.toNat - 0x80), 0x80, 0xBF, more⟩ bs c) :
      Finishes ⟨value, low, high, more + 1⟩ (b :: bs) c

/-- A begun character in bytes without a fault is finished, and the rest is read from its start. -/
theorem exists_finishes {p : Pending} {bs : Bytes} {cs : List Char}
    (h : chunksFrom (some p) bs = cs.map some) :
    ∃ pre rest c more, bs = pre ++ rest ∧ Finishes p pre c ∧ cs = c :: more ∧
      chunksFrom none rest = more.map some := by
  induction bs generalizing p with
  | nil =>
    rcases cs with _ | ⟨c, cs⟩
    · cases h
    · cases h
  | cons b bs ih =>
    obtain ⟨value, low, high, more⟩ := p
    simp only [chunksFrom, step] at h
    split_ifs at h with hb
    · rcases more with _ | more
      · rcases cs with _ | ⟨c, cs⟩
        · cases h
        · simp only [List.cons_append, List.nil_append, List.map_cons, List.cons.injEq,
            Option.some.injEq] at h
          obtain ⟨rfl, hrest⟩ := h
          exact ⟨[b], bs, _, cs, rfl, .last hb.1 hb.2, rfl, hrest⟩
      · obtain ⟨pre, rest, c, others, rfl, hpre, hcs, hrest⟩ := ih h
        exact ⟨b :: pre, rest, c, others, rfl, .more hb.1 hb.2 hpre, hcs, hrest⟩
    · rcases cs with _ | ⟨c, cs⟩
      · cases h
      · cases h

theorem Finishes.of_last {value low high : Nat} {pre : Bytes} {c : Char}
    (h : Finishes ⟨value, low, high, 0⟩ pre c) :
    ∃ b : UInt8, pre = [b] ∧ low ≤ b.toNat ∧ b.toNat ≤ high ∧
      c = Char.ofNat (value * 64 + (b.toNat - 0x80)) := by
  cases h with
  | last hl hh => exact ⟨_, rfl, hl, hh, rfl⟩

theorem Finishes.of_more {value low high more : Nat} {pre : Bytes} {c : Char}
    (h : Finishes ⟨value, low, high, more + 1⟩ pre c) :
    ∃ (b : UInt8) (bs : Bytes), pre = b :: bs ∧ low ≤ b.toNat ∧ b.toNat ≤ high ∧
      Finishes ⟨value * 64 + (b.toNat - 0x80), 0x80, 0xBF, more⟩ bs c := by
  cases h with
  | more hl hh h => exact ⟨_, _, rfl, hl, hh, h⟩

/-! ## Characters of two, three and four bytes -/

section Encode

variable {value low high : Nat} {b : UInt8} {pre : Bytes} {c : Char}

theorem encodeChar_two (hb : b.toNat = value + 0xC0) (hvalue : 2 ≤ value ∧ value < 32)
    (hl : 0x80 ≤ low) (hh : high ≤ 0xBF) (h : Finishes ⟨value, low, high, 0⟩ pre c) :
    String.utf8EncodeChar c = b :: pre := by
  obtain ⟨b₁, rfl, hl₁, hh₁, hc⟩ := h.of_last
  rw [hc, encodeChar_ofNat (.inl (by omega)), if_neg (by omega), if_pos (by omega),
    ofNat_eq (b := b) (by omega), ofNat_eq (b := b₁) (by omega)]

/-- The bounds of the second byte rule out overlong forms and surrogates. -/
theorem encodeChar_three (hb : b.toNat = value + 0xE0) (hvalue : value < 16)
    (hl : 0x80 ≤ low ∧ (value = 0 → 0xA0 ≤ low)) (hh : high ≤ 0xBF ∧ (value = 0xD → high ≤ 0x9F))
    (h : Finishes ⟨value, low, high, 1⟩ pre c) : String.utf8EncodeChar c = b :: pre := by
  obtain ⟨b₁, pre, rfl, hl₁, hh₁, h⟩ := h.of_more
  obtain ⟨b₂, rfl, hl₂, hh₂, hc⟩ := h.of_last
  have hvalid : ((value * 64 + (b₁.toNat - 0x80)) * 64 + (b₂.toNat - 0x80)).isValidChar := by
    unfold Nat.isValidChar
    omega
  rw [hc, encodeChar_ofNat hvalid, if_neg (by omega), if_neg (by omega), if_pos (by omega),
    ofNat_eq (b := b) (by omega), ofNat_eq (b := b₁) (by omega), ofNat_eq (b := b₂) (by omega)]

/-- The bounds of the second byte rule out overlong forms and numbers past U+10FFFF. -/
theorem encodeChar_four (hb : b.toNat = value + 0xF0) (hvalue : value < 5)
    (hl : 0x80 ≤ low ∧ (value = 0 → 0x90 ≤ low)) (hh : high ≤ 0xBF ∧ (value = 4 → high ≤ 0x8F))
    (h : Finishes ⟨value, low, high, 2⟩ pre c) : String.utf8EncodeChar c = b :: pre := by
  obtain ⟨b₁, pre, rfl, hl₁, hh₁, h⟩ := h.of_more
  obtain ⟨b₂, pre, rfl, hl₂, hh₂, h⟩ := h.of_more
  obtain ⟨b₃, rfl, hl₃, hh₃, hc⟩ := h.of_last
  have hvalid : (((value * 64 + (b₁.toNat - 0x80)) * 64 + (b₂.toNat - 0x80)) * 64 +
      (b₃.toNat - 0x80)).isValidChar := by
    unfold Nat.isValidChar
    omega
  rw [hc, encodeChar_ofNat hvalid, if_neg (by omega), if_neg (by omega), if_neg (by omega),
    ofNat_eq (b := b) (by omega), ofNat_eq (b := b₁) (by omega), ofNat_eq (b := b₂) (by omega),
    ofNat_eq (b := b₃) (by omega)]

end Encode

/-! ## Texts -/

/-- A first byte is a character, begins none, or begins one that it encodes with the bytes that finish it. -/
def Encodes (b : UInt8) (o : List (Option Char) × Option Pending) : Prop :=
  (∃ c, o = ([some c], none) ∧ String.utf8EncodeChar c = [b]) ∨ o = ([none], none) ∨
    ∃ p, o = ([], some p) ∧ ∀ pre c, Finishes p pre c → String.utf8EncodeChar c = b :: pre

theorem encodes_start (b : UInt8) : Encodes b (start b) := by
  have hb : b.toNat < 256 := b.toNat_lt
  have hnone : Encodes b ([none], none) := .inr (.inl rfl)
  have hbegun {p : Pending} (h : ∀ pre c, Finishes p pre c → String.utf8EncodeChar c = b :: pre) :
      Encodes b ([], some p) := .inr (.inr ⟨p, rfl, h⟩)
  unfold start
  refine iteInduction (fun h1 => ?_) fun h1 => iteInduction (fun h2 => hnone) fun h2 =>
    iteInduction (fun h3 => ?_) fun h3 => iteInduction (fun h4 => ?_) fun h4 =>
    iteInduction (fun h5 => ?_) fun h5 => iteInduction (fun h6 => ?_) fun h6 =>
    iteInduction (fun h7 => ?_) fun h7 => iteInduction (fun h8 => ?_) fun h8 =>
    iteInduction (fun h9 => ?_) fun h9 => hnone
  · refine .inl ⟨_, rfl, ?_⟩
    rw [encodeChar_ofNat (.inl (by omega)), if_pos (by omega), UInt8.ofNat_toNat]
  · exact hbegun fun _ _ => encodeChar_two (by omega) (by omega) (by omega) (by omega)
  · exact hbegun fun _ _ => encodeChar_three (by omega) (by omega) (by omega) (by omega)
  · exact hbegun fun _ _ => encodeChar_three (by omega) (by omega) (by omega) (by omega)
  · exact hbegun fun _ _ => encodeChar_three (by omega) (by omega) (by omega) (by omega)
  · exact hbegun fun _ _ => encodeChar_four (by omega) (by omega) (by omega) (by omega)
  · exact hbegun fun _ _ => encodeChar_four (by omega) (by omega) (by omega) (by omega)
  · exact hbegun fun _ _ => encodeChar_four (by omega) (by omega) (by omega) (by omega)

/-- Bytes without a fault are the encoding of what is read. The induction is on their number, since a
character takes up to four of them. -/
theorem eq_encode_of_chunksFrom {bs : Bytes} {cs : List Char} (h : chunksFrom none bs = cs.map some) :
    bs = encode cs := by
  induction hn : bs.length using Nat.strongRecOn generalizing bs cs with
  | ind n ih =>
    rcases bs with _ | ⟨b, bs⟩
    · rw [List.map_eq_nil_iff.1 h.symm]
      rfl
    · rw [chunksFrom, step] at h
      rcases encodes_start b with ⟨c, hstart, hc⟩ | hstart | ⟨p, hstart, hp⟩
      · rw [hstart] at h
        rcases cs with _ | ⟨c', cs⟩
        · cases h
        · simp only [List.cons_append, List.nil_append, List.map_cons, List.cons.injEq,
            Option.some.injEq] at h
          obtain ⟨rfl, hrest⟩ := h
          rw [encode_cons, hc, ← ih bs.length (by simp [← hn]) hrest rfl]
          rfl
      · rw [hstart] at h
        rcases cs with _ | ⟨c', cs⟩
        · cases h
        · cases h
      · rw [hstart] at h
        obtain ⟨pre, rest, c, more, rfl, hpre, rfl, hrest⟩ := exists_finishes h
        have hlt : rest.length < n := by
          rw [← hn, List.length_cons, List.length_append]
          omega
        rw [encode_cons, hp pre c hpre, ← ih rest.length hlt hrest rfl]
        rfl

/-- The bytes that decode to a text are its encoding and no others. -/
theorem decode?_eq_some_iff {bs : Bytes} {cs : List Char} : decode? bs = some cs ↔ bs = encode cs := by
  constructor
  · intro h
    refine eq_encode_of_chunksFrom (?_ : chunks bs = _)
    rw [decode?] at h
    generalize chunks bs = chunks at h
    induction chunks generalizing cs with
    | nil => cases h; rfl
    | cons chunk chunks ih =>
      rw [List.mapM_cons] at h
      obtain ⟨c, hc, h⟩ := Option.bind_eq_some_iff.1 h
      obtain ⟨more, hmore, h⟩ := Option.bind_eq_some_iff.1 h
      cases h
      rw [ih hmore, List.map_cons]
      exact congrArg (· :: _) hc
  · rintro rfl
    exact decode?_encode cs

end Signpost.Utf8

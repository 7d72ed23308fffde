/-!
# UTF-8

Texts as bytes and back.

* `Utf8.encode` writes each character with `String.utf8EncodeChar`.
* `Utf8.chunks` reads any bytes as a list of characters and faults. A fault stands for one
  longest run of bytes that begins a character and does not finish it, or for one byte that begins none.
* `Utf8.decode?` refuses bytes with a fault; `Utf8.decodeLossy` puts U+FFFD in the place of each.
* `decode?_encode`, `decodeLossy_encode`: both read the bytes of a text as that text.
-/

namespace Signpost

/-- Raw bytes, as a request body carries them. -/
abbrev Bytes := List UInt8

namespace Utf8

/-- The bytes of a text. -/
def encode (cs : List Char) : Bytes := cs.flatMap String.utf8EncodeChar

@[simp] theorem encode_nil : encode [] = [] := rfl

@[simp] theorem encode_cons (c : Char) (cs : List Char) :
    encode (c :: cs) = String.utf8EncodeChar c ++ encode cs := by
  simp [encode]

@[simp] theorem encode_append (cs ds : List Char) : encode (cs ++ ds) = encode cs ++ encode ds := by
  simp [encode]

theorem encode_ne_nil {cs : List Char} (h : cs ≠ []) : encode cs ≠ [] := by
  obtain ⟨c, cs, rfl⟩ := List.exists_cons_of_ne_nil h
  rw [encode_cons]
  exact List.append_ne_nil_of_left_ne_nil String.utf8EncodeChar_ne_nil _

/-! ## Reading -/

/-- A character that has begun and needs `more + 1` further bytes. The next of them lies between
`low` and `high`, which rules out overlong forms, surrogates and numbers past U+10FFFF. -/
structure Pending where
  value : Nat
  low : Nat
  high : Nat
  more : Nat
deriving DecidableEq

/-- What the first byte of a character says: the whole character, the start of a longer one, or
nothing that begins a character. -/
def start (b : UInt8) : List (Option Char) × Option Pending :=
  let n := b.toNat
  if n < 0x80 then ([some (Char.ofNat n)], none)
  else if n < 0xC2 then ([none], none)
  else if n < 0xE0 then ([], some ⟨n - 0xC0, 0x80, 0xBF, 0⟩)
  else if n = 0xE0 then ([], some ⟨0, 0xA0, 0xBF, 1⟩)
  else if n = 0xED then ([], some ⟨0xD, 0x80, 0x9F, 1⟩)
  else if n < 0xF0 then ([], some ⟨n - 0xE0, 0x80, 0xBF, 1⟩)
  else if n = 0xF0 then ([], some ⟨0, 0x90, 0xBF, 2⟩)
  else if n < 0xF4 then ([], some ⟨n - 0xF0, 0x80, 0xBF, 2⟩)
  else if n = 0xF4 then ([], some ⟨4, 0x80, 0x8F, 2⟩)
  else ([none], none)

/-- Reads one byte after a begun character, if there is one. A byte that does not fit closes the
character as a fault and is read again as a first byte. -/
def step : Option Pending → UInt8 → List (Option Char) × Option Pending
  | none, b => start b
  | some p, b =>
    if p.low ≤ b.toNat ∧ b.toNat ≤ p.high then
      let value := p.value * 64 + (b.toNat - 0x80)
      match p.more with
      | 0 => ([some (Char.ofNat value)], none)
      | more + 1 => ([], some ⟨value, 0x80, 0xBF, more⟩)
    else (none :: (start b).1, (start b).2)

/-- The characters and faults of `bytes`, after a begun character. -/
def chunksFrom : Option Pending → Bytes → List (Option Char)
  | none, [] => []
  | some _, [] => [none]
  | p, b :: bs => (step p b).1 ++ chunksFrom (step p b).2 bs

/-- The characters of `bytes`, with `none` for each fault. -/
def chunks (bytes : Bytes) : List (Option Char) := chunksFrom none bytes

/-- The text that `bytes` encode, if they encode one. -/
def decode? (bytes : Bytes) : Option (List Char) := (chunks bytes).mapM id

/-- The text of `bytes`, with U+FFFD for each fault. -/
def decodeLossy (bytes : Bytes) : List Char := (chunks bytes).map (·.getD '\uFFFD')

/-! ## Round trips -/

theorem ofNat_of_toNat_eq {c : Char} {n : Nat} (h : n = c.toNat) : Char.ofNat n = c := by
  rw [h, Char.ofNat_toNat]

theorem toNat_ofNat_of_lt {n : Nat} (h : n < 256) : (UInt8.ofNat n).toNat = n := by
  rw [UInt8.toNat_ofNat']; omega

/-- A byte below 128 stands only in the encoding of its own character. -/
theorem eq_ofNat_of_mem_encodeChar {c : Char} {b : UInt8} (hb : b ∈ String.utf8EncodeChar c)
    (h : b.toNat < 0x80) : c = Char.ofNat b.toNat := by
  have hv : c.val.toNat = c.toNat := rfl
  refine (ofNat_of_toNat_eq ?_).symm
  unfold String.utf8EncodeChar at hb
  simp only [hv] at hb
  split at hb
  · rw [List.mem_singleton.1 hb, toNat_ofNat_of_lt (by omega)]
  split at hb
  · simp only [List.mem_cons, List.not_mem_nil, or_false] at hb
    rcases hb with hb | hb <;> rw [hb, toNat_ofNat_of_lt (by omega)] at h <;> omega
  split at hb
  · simp only [List.mem_cons, List.not_mem_nil, or_false] at hb
    rcases hb with hb | hb | hb <;> rw [hb, toNat_ofNat_of_lt (by omega)] at h <;> omega
  · simp only [List.mem_cons, List.not_mem_nil, or_false] at hb
    rcases hb with hb | hb | hb | hb <;> rw [hb, toNat_ofNat_of_lt (by omega)] at h <;> omega

/-- The last byte of a character ends it. -/
theorem chunksFrom_last {value low high k : Nat} (hk : k < 64) (hl : low ≤ k + 128)
    (hh : k + 128 ≤ high) (bs : Bytes) :
    chunksFrom (some ⟨value, low, high, 0⟩) (UInt8.ofNat (k + 128) :: bs) =
      some (Char.ofNat (value * 64 + k)) :: chunksFrom none bs := by
  have hb : (UInt8.ofNat (k + 128)).toNat = k + 128 := toNat_ofNat_of_lt (by omega)
  simp only [chunksFrom, step, hb, if_pos (And.intro hl hh), Nat.add_sub_cancel, List.cons_append,
    List.nil_append]

/-- Any other byte of a character is added to it. -/
theorem chunksFrom_more {value low high more k : Nat} (hk : k < 64) (hl : low ≤ k + 128)
    (hh : k + 128 ≤ high) (bs : Bytes) :
    chunksFrom (some ⟨value, low, high, more + 1⟩) (UInt8.ofNat (k + 128) :: bs) =
      chunksFrom (some ⟨value * 64 + k, 0x80, 0xBF, more⟩) bs := by
  have hb : (UInt8.ofNat (k + 128)).toNat = k + 128 := toNat_ofNat_of_lt (by omega)
  simp only [chunksFrom, step, hb, if_pos (And.intro hl hh), Nat.add_sub_cancel, List.nil_append]

/-- The bytes of a character are read as that character, whatever follows. -/
theorem chunksFrom_encodeChar (c : Char) (bs : Bytes) :
    chunksFrom none (String.utf8EncodeChar c ++ bs) = some c :: chunksFrom none bs := by
  have hc : c.toNat < 0xD800 ∨ 0xDFFF < c.toNat ∧ c.toNat < 0x110000 := c.valid
  have hv : c.val.toNat = c.toNat := rfl
  unfold String.utf8EncodeChar
  simp only [hv]
  generalize hn : c.toNat = n at hc
  have char_eq {m : Nat} (h : m = n) : Char.ofNat m = c := ofNat_of_toNat_eq (h.trans hn.symm)
  split
  · have hb : (UInt8.ofNat n).toNat = n := toNat_ofNat_of_lt (by omega)
    simp [chunksFrom, step, start, hb, char_eq rfl, show n < 128 by omega]
  split
  · have hb : (UInt8.ofNat (n / 64 % 32 + 192)).toNat = n / 64 % 32 + 192 :=
      toNat_ofNat_of_lt (by omega)
    have hs : start (UInt8.ofNat (n / 64 % 32 + 192)) = ([], some ⟨n / 64, 0x80, 0xBF, 0⟩) := by
      simp only [start, hb]
      rw [if_neg (by omega), if_neg (by omega), if_pos (by omega)]
      simp only [Prod.mk.injEq, Option.some.injEq, Pending.mk.injEq, true_and, and_true]
      omega
    rw [List.cons_append, chunksFrom, step, hs, List.nil_append, List.cons_append,
      chunksFrom_last (by omega) (by omega) (by omega), char_eq (by omega), List.nil_append]
  split
  · have hb : (UInt8.ofNat (n / 4096 % 16 + 224)).toNat = n / 4096 % 16 + 224 :=
      toNat_ofNat_of_lt (by omega)
    have hs : ∃ low high, start (UInt8.ofNat (n / 4096 % 16 + 224)) =
        ([], some ⟨n / 4096, low, high, 1⟩) ∧ low ≤ n / 64 % 64 + 128 ∧
          n / 64 % 64 + 128 ≤ high := by
      simp only [start, hb]
      by_cases h0 : n / 4096 = 0
      · refine ⟨0xA0, 0xBF, ?_, by omega, by omega⟩
        rw [if_neg (by omega), if_neg (by omega), if_neg (by omega), if_pos (by omega), h0]
      by_cases hD : n / 4096 = 13
      · refine ⟨0x80, 0x9F, ?_, by omega, by omega⟩
        rw [if_neg (by omega), if_neg (by omega), if_neg (by omega), if_neg (by omega),
          if_pos (by omega), hD]
      · refine ⟨0x80, 0xBF, ?_, by omega, by omega⟩
        rw [if_neg (by omega), if_neg (by omega), if_neg (by omega), if_neg (by omega),
          if_neg (by omega), if_pos (by omega)]
        simp only [Prod.mk.injEq, Option.some.injEq, Pending.mk.injEq, true_and, and_true]
        omega
    obtain ⟨low, high, hs, hl, hh⟩ := hs
    rw [List.cons_append, chunksFrom, step, hs, List.nil_append, List.cons_append,
      chunksFrom_more (by omega) hl hh, List.cons_append,
      chunksFrom_last (by omega) (by omega) (by omega), char_eq (by omega), List.nil_append]
  · have hb : (UInt8.ofNat (n / 262144 % 8 + 240)).toNat = n / 262144 % 8 + 240 :=
      toNat_ofNat_of_lt (by omega)
    have hs : ∃ low high, start (UInt8.ofNat (n / 262144 % 8 + 240)) =
        ([], some ⟨n / 262144, low, high, 2⟩) ∧ low ≤ n / 4096 % 64 + 128 ∧
          n / 4096 % 64 + 128 ≤ high := by
      simp only [start, hb]
      by_cases h0 : n / 262144 = 0
      · refine ⟨0x90, 0xBF, ?_, by omega, by omega⟩
        rw [if_neg (by omega), if_neg (by omega), if_neg (by omega), if_neg (by omega),
          if_neg (by omega), if_neg (by omega), if_pos (by omega), h0]
      by_cases h4 : n / 262144 = 4
      · refine ⟨0x80, 0x8F, ?_, by omega, by omega⟩
        rw [if_neg (by omega), if_neg (by omega), if_neg (by omega), if_neg (by omega),
          if_neg (by omega), if_neg (by omega), if_neg (by omega), if_neg (by omega),
          if_pos (by omega), h4]
      · refine ⟨0x80, 0xBF, ?_, by omega, by omega⟩
        rw [if_neg (by omega), if_neg (by omega), if_neg (by omega), if_neg (by omega),
          if_neg (by omega), if_neg (by omega), if_neg (by omega), if_pos (by omega)]
        simp only [Prod.mk.injEq, Option.some.injEq, Pending.mk.injEq, true_and, and_true]
        omega
    obtain ⟨low, high, hs, hl, hh⟩ := hs
    rw [List.cons_append, chunksFrom, step, hs, List.nil_append, List.cons_append,
      chunksFrom_more (by omega) hl hh, List.cons_append,
      chunksFrom_more (by omega) (by omega) (by omega), List.cons_append,
      chunksFrom_last (by omega) (by omega) (by omega), char_eq (by omega), List.nil_append]

/-- The bytes of a text are read as its characters, whatever follows. -/
theorem chunksFrom_encode_append (cs : List Char) (bs : Bytes) :
    chunksFrom none (encode cs ++ bs) = cs.map some ++ chunksFrom none bs := by
  induction cs with
  | nil => rfl
  | cons c cs ih =>
    rw [encode_cons, List.append_assoc, chunksFrom_encodeChar, ih, List.map_cons, List.cons_append]

/-- The bytes of a text hold no fault. -/
theorem chunks_encode (cs : List Char) : chunks (encode cs) = cs.map some := by
  have h := chunksFrom_encode_append cs []
  rw [List.append_nil] at h
  rw [chunks, h]
  simp [chunksFrom]

/-- The bytes of a text decode to it. -/
theorem decode?_encode (cs : List Char) : decode? (encode cs) = some cs := by
  rw [decode?, chunks_encode]
  induction cs with
  | nil => rfl
  | cons c cs ih => simp_all [List.mapM_cons]

/-- Lossy decoding loses nothing of a text. -/
theorem decodeLossy_encode (cs : List Char) : decodeLossy (encode cs) = cs := by
  rw [decodeLossy, chunks_encode, List.map_map]
  exact List.map_id cs

end Utf8

end Signpost

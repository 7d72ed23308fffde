import Signpost.Text.Utf8

/-!
# Percent escapes

A byte is escaped as `%` and its two hexadecimal digits in upper case.

* `Percent.escape` writes a text, keeping the characters that `keep` allows.
* `Percent.decode` undoes every well-formed escape, in either case; a `%` that begins none stays.
* `Percent.decodeText?` also reads the decoded bytes as UTF-8.
* `decode_percent`: an escape is read as its byte, whichever case its digits have.
* `decodeText?_escape`: an escaped text is read as that text, if `%` is not kept as it is.
-/

namespace Signpost.Percent

/-- A hexadecimal digit in upper case. -/
def hexDigit (n : Nat) : Char :=
  if n < 10 then Char.ofNat (n + 48) else Char.ofNat (n + 55)

/-- The character is the hexadecimal digit for a number, in either case. -/
def IsHexDigit (n : Nat) (c : Char) : Prop := c = hexDigit n ∨ c = (hexDigit n).toLower

/-- The value of a hexadecimal digit in either case. -/
def hexValue? (b : UInt8) : Option UInt8 :=
  if 0x30 ≤ b ∧ b ≤ 0x39 then some (b - 0x30)
  else if 0x41 ≤ b ∧ b ≤ 0x46 then some (b - 0x37)
  else if 0x61 ≤ b ∧ b ≤ 0x66 then some (b - 0x57)
  else none

/-- The escape of one byte. -/
def escapeByte (b : UInt8) : List Char :=
  ['%', hexDigit (b.toNat / 16), hexDigit (b.toNat % 16)]

/-- A character as it is, or the escapes of its bytes. -/
def escapeChar (keep : Char → Bool) (c : Char) : List Char :=
  if keep c then [c] else (String.utf8EncodeChar c).flatMap escapeByte

/-- A text with every character that is not kept written as escapes. -/
def escape (keep : Char → Bool) (cs : List Char) : List Char := cs.flatMap (escapeChar keep)

/-- Bytes with every well-formed escape replaced by the byte it stands for. -/
def decode : Bytes → Bytes
  | 0x25 :: a :: b :: rest =>
    match hexValue? a, hexValue? b with
    | some x, some y => (16 * x + y) :: decode rest
    | _, _ => 0x25 :: decode (a :: b :: rest)
  | b :: rest => b :: decode rest
  | [] => []

/-- The text that escaped text stands for, if its bytes are UTF-8. -/
def decodeText? (cs : List Char) : Option (List Char) := Utf8.decode? (decode (Utf8.encode cs))

/-! ## Written characters -/

/-- What holds of a character that is kept, of percent signs and of digits holds of all that is written
for the character. -/
theorem forall_mem_escapeChar {keep : Char → Bool} {P : Char → Prop} {c : Char} (hkeep : keep c = true → P c)
    (hpercent : P '%') (hdigits : ∀ n : Fin 16, P (hexDigit n)) : ∀ x ∈ escapeChar keep c, P x := by
  intro x hx
  unfold escapeChar at hx
  split at hx
  · rename_i hc
    rw [List.mem_singleton.1 hx]
    exact hkeep hc
  · obtain ⟨b, -, hx⟩ := List.mem_flatMap.1 hx
    have hb : b.toNat < 256 := b.toNat_lt
    simp only [escapeByte, List.mem_cons, List.not_mem_nil, or_false] at hx
    rcases hx with rfl | rfl | rfl
    · exact hpercent
    · exact hdigits ⟨b.toNat / 16, by omega⟩
    · exact hdigits ⟨b.toNat % 16, by omega⟩

/-- What holds of kept characters, of percent signs and of digits holds of all that is written for a text. -/
theorem forall_mem_escape {keep : Char → Bool} {P : Char → Prop} {cs : List Char}
    (hkeep : ∀ c ∈ cs, keep c = true → P c) (hpercent : P '%') (hdigits : ∀ n : Fin 16, P (hexDigit n)) :
    ∀ x ∈ escape keep cs, P x := by
  intro x hx
  obtain ⟨c, hc, hx⟩ := List.mem_flatMap.1 hx
  exact forall_mem_escapeChar (hkeep c hc) hpercent hdigits x hx

/-! ## Round trips -/

/-- Only the byte of `%` begins an escape. -/
theorem decode_cons_of_ne {b : UInt8} (h : b ≠ 0x25) (bs : Bytes) :
    decode (b :: bs) = b :: decode bs := by
  rw [decode]
  rintro x y rest rfl
  exact absurd rfl h

theorem decode_append_of_forall_ne {as : Bytes} (h : ∀ b ∈ as, b ≠ 0x25) (bs : Bytes) :
    decode (as ++ bs) = as ++ decode bs := by
  induction as with
  | nil => rfl
  | cons a as ih =>
    rw [List.cons_append, decode_cons_of_ne (h a (by simp)), ih fun b hb => h b (by simp [hb]),
      List.cons_append]

/-- The byte of `%` stands in the bytes of no other character. -/
theorem ne_of_mem_utf8EncodeChar {c : Char} (hc : c ≠ '%') :
    ∀ b ∈ String.utf8EncodeChar c, b ≠ 0x25 := by
  rintro b hb rfl
  exact hc (Utf8.eq_ofNat_of_mem_encodeChar hb (by decide))

/-- Text without escapes stands for itself. -/
theorem decodeText?_of_forall_ne {cs : List Char} (h : ∀ c ∈ cs, c ≠ '%') :
    decodeText? cs = some cs := by
  have hbytes : ∀ b ∈ Utf8.encode cs, b ≠ 0x25 := by
    intro b hb
    obtain ⟨c, hc, hb⟩ := List.mem_flatMap.1 hb
    exact ne_of_mem_utf8EncodeChar (h c hc) b hb
  have hdecode := decode_append_of_forall_ne hbytes []
  rw [List.append_nil, decode, List.append_nil] at hdecode
  rw [decodeText?, hdecode, Utf8.decode?_encode]

/-- What holds of the digits for a number in both cases holds of each of them. -/
theorem IsHexDigit.of_forall {P : Nat → Char → Prop}
    (h : ∀ n : Fin 16, P n (hexDigit n) ∧ P n (hexDigit n).toLower) {n : Nat} (hn : n < 16) {c : Char}
    (hc : IsHexDigit n c) : P n c := by
  rcases hc with rfl | rfl
  · exact (h ⟨n, hn⟩).1
  · exact (h ⟨n, hn⟩).2

/-- A digit is one byte, and is read as its value. -/
theorem IsHexDigit.bytes {n : Nat} (hn : n < 16) {c : Char} (hc : IsHexDigit n c) :
    String.utf8EncodeChar c = [UInt8.ofNat c.toNat] ∧
      hexValue? (UInt8.ofNat c.toNat) = some (UInt8.ofNat n) :=
  IsHexDigit.of_forall (P := fun n c => String.utf8EncodeChar c = [UInt8.ofNat c.toNat] ∧
    hexValue? (UInt8.ofNat c.toNat) = some (UInt8.ofNat n)) (by decide) hn hc

/-- An escape is read as the byte of its digits. -/
theorem decode_percent {b : UInt8} {x y : Char} (hx : IsHexDigit (b.toNat / 16) x)
    (hy : IsHexDigit (b.toNat % 16) y) (bs : Bytes) :
    decode (Utf8.encode ['%', x, y] ++ bs) = b :: decode bs := by
  have hlt : b.toNat < 256 := b.toNat_lt
  obtain ⟨hxb, hxv⟩ := hx.bytes (by omega)
  obtain ⟨hyb, hyv⟩ := hy.bytes (by omega)
  have hp : String.utf8EncodeChar '%' = [0x25] := by decide
  simp only [Utf8.encode_cons, Utf8.encode_nil, hp, hxb, hyb, List.cons_append, List.nil_append, decode,
    hxv, hyv]
  congr 1
  apply UInt8.toNat_inj.1
  rw [UInt8.toNat_add, UInt8.toNat_mul, Utf8.toNat_ofNat_of_lt (by omega),
    Utf8.toNat_ofNat_of_lt (by omega), show (16 : UInt8).toNat = 16 from rfl]
  omega

/-- An escaped byte is read as that byte. -/
theorem decode_escapeByte (b : UInt8) (bs : Bytes) :
    decode (Utf8.encode (escapeByte b) ++ bs) = b :: decode bs :=
  decode_percent (.inl rfl) (.inl rfl) bs

theorem decode_escapeBytes (as bs : Bytes) :
    decode (Utf8.encode (as.flatMap escapeByte) ++ bs) = as ++ decode bs := by
  induction as with
  | nil => rfl
  | cons a as ih =>
    rw [List.flatMap_cons, Utf8.encode_append, List.append_assoc, decode_escapeByte, ih,
      List.cons_append]

/-- An escaped character is read as its bytes. -/
theorem decode_escapeChar {keep : Char → Bool} (hk : keep '%' = false) (c : Char) (bs : Bytes) :
    decode (Utf8.encode (escapeChar keep c) ++ bs) = String.utf8EncodeChar c ++ decode bs := by
  unfold escapeChar
  split
  · rename_i hc
    have hne : c ≠ '%' := by rintro rfl; simp [hk] at hc
    rw [Utf8.encode_cons, Utf8.encode_nil, List.append_nil,
      decode_append_of_forall_ne (ne_of_mem_utf8EncodeChar hne)]
  · exact decode_escapeBytes _ bs

/-- An escaped text is read as its bytes, if `%` is not kept as it is. -/
theorem decode_escape {keep : Char → Bool} (hk : keep '%' = false) (cs : List Char) (bs : Bytes) :
    decode (Utf8.encode (escape keep cs) ++ bs) = Utf8.encode cs ++ decode bs := by
  induction cs with
  | nil => rfl
  | cons c cs ih =>
    rw [escape, List.flatMap_cons, Utf8.encode_append, List.append_assoc, decode_escapeChar hk,
      ← escape, ih, Utf8.encode_cons, List.append_assoc]

/-- An escaped text is read as that text, if `%` is not kept as it is. -/
theorem decodeText?_escape {keep : Char → Bool} (hk : keep '%' = false) (cs : List Char) :
    decodeText? (escape keep cs) = some cs := by
  have h := decode_escape hk cs []
  rw [List.append_nil, decode, List.append_nil] at h
  rw [decodeText?, h, Utf8.decode?_encode]

end Signpost.Percent

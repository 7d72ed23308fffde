import Signpost.Proofs.Text.Decimal
import Signpost.Text.Percent

/-!
# Written bytes

Bytes may be written in many ways: an escape may stand for any of them, with digits of either case, and the
byte of an unreserved character may also stand as that character.

* `Percent.Written`: the ways to write some bytes.
* `Written.mem`: what stands in them.
* `decode_of_written`, `decodeText?_of_written`: all are read as the bytes.
-/

namespace Signpost.Percent

/-- A character that may stand for its byte: a letter, a digit or one of `-._~`. -/
def isUnreserved (c : Char) : Bool := c.isAlphanum || c = '-' || c = '.' || c = '_' || c = '~'

/-- The characters write the bytes, each as its unreserved character or as an escape. -/
inductive Written : Bytes → List Char → Prop
  | nil : Written [] []
  | unreserved {c : Char} {bs : Bytes} {cs : List Char} (hc : isUnreserved c = true)
      (h : Written bs cs) : Written (UInt8.ofNat c.toNat :: bs) (c :: cs)
  | escape {b : UInt8} {x y : Char} {bs : Bytes} {cs : List Char} (hx : IsHexDigit (b.toNat / 16) x)
      (hy : IsHexDigit (b.toNat % 16) y) (h : Written bs cs) : Written (b :: bs) ('%' :: x :: y :: cs)

/-! ## Written characters -/

theorem toNat_lt_of_isUnreserved {c : Char} (h : isUnreserved c = true) : c.toNat < 128 := by
  simp only [isUnreserved, Bool.or_eq_true, decide_eq_true_eq] at h
  rcases h with (((h | rfl) | rfl) | rfl) | rfl
  · exact toNat_lt_of_isAlphanum h
  all_goals decide

theorem isUnreserved_of_isHexDigit {n : Nat} (hn : n < 16) {c : Char} (hc : IsHexDigit n c) :
    isUnreserved c = true :=
  IsHexDigit.of_forall (P := fun _ c => isUnreserved c = true) (by decide) hn hc

/-- Only unreserved characters and percent signs are written. -/
theorem Written.mem {bs : Bytes} {cs : List Char} (h : Written bs cs) :
    ∀ c ∈ cs, isUnreserved c = true ∨ c = '%' := by
  induction h with
  | nil => exact nofun
  | unreserved hc _ ih => exact List.forall_mem_cons.2 ⟨.inl hc, ih⟩
  | @escape b x y _ _ hx hy _ ih =>
    have hlt : b.toNat < 256 := b.toNat_lt
    have hxu := isUnreserved_of_isHexDigit (by omega) hx
    have hyu := isUnreserved_of_isHexDigit (by omega) hy
    exact List.forall_mem_cons.2 ⟨.inr rfl, List.forall_mem_cons.2 ⟨.inl hxu,
      List.forall_mem_cons.2 ⟨.inl hyu, ih⟩⟩⟩

theorem Written.ne_nil {bs : Bytes} {cs : List Char} (h : Written bs cs) (hne : bs ≠ []) : cs ≠ [] := by
  cases h with
  | nil => exact absurd rfl hne
  | unreserved => exact List.cons_ne_nil _ _
  | escape => exact List.cons_ne_nil _ _

/-! ## Reading -/

/-- Written bytes are read as those bytes. -/
theorem decode_of_written {bs : Bytes} {cs : List Char} (h : Written bs cs) :
    decode (Utf8.encode cs) = bs := by
  induction h with
  | nil => rfl
  | @unreserved c bs cs hc _ ih =>
    have hne : c ≠ '%' := by
      rintro rfl
      exact absurd hc (by decide)
    rw [Utf8.encode_cons, decode_append_of_forall_ne (ne_of_mem_utf8EncodeChar hne), ih,
      Utf8.encodeChar_of_lt (toNat_lt_of_isUnreserved hc), List.singleton_append]
  | @escape b x y bs cs hx hy _ ih =>
    have hsplit : Utf8.encode ('%' :: x :: y :: cs) = Utf8.encode ['%', x, y] ++ Utf8.encode cs :=
      Utf8.encode_append ['%', x, y] cs
    rw [hsplit, decode_percent hx hy, ih]

/-- A written text is read as that text. -/
theorem decodeText?_of_written {text cs : List Char} (h : Written (Utf8.encode text) cs) :
    decodeText? cs = some text := by
  rw [decodeText?, decode_of_written h, Utf8.decode?_encode]

end Signpost.Percent

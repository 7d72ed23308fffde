import Signpost.Text.Percent
import Signpost.Text.Pieces

/-!
# Urlencoded pairs

A query string holds pairs `key=value` between `&`. A space is written `+`, and every character
but letters, digits and `*-._` as percent escapes.

* `Urlencoded.encode` writes one key or value; `Urlencoded.render` writes the pairs.
* `Urlencoded.parse` reads any text: empty pieces are dropped, a pair is cut at its first `=`, and
  what is not UTF-8 becomes U+FFFD.
* `parse_render`: written pairs are read as those pairs.
-/

namespace Signpost.Urlencoded

/-- A character that is written as it is. -/
def isPlain (c : Char) : Bool := c.isAlphanum || c = '*' || c = '-' || c = '.' || c = '_'

/-- The written form of a character. -/
def encodeChar (c : Char) : List Char :=
  if c = ' ' then ['+'] else Percent.escapeChar isPlain c

/-- The written form of a key or a value. -/
def encode (cs : List Char) : List Char := cs.flatMap encodeChar

/-- The bytes that a written key or value stands for: a `+` is a space, and escapes are undone. -/
def decodeBytes (bytes : Bytes) : Bytes :=
  Percent.decode (bytes.map fun b => if b = 0x2B then 0x20 else b)

/-- The key or value that a written form stands for. -/
def decode (cs : List Char) : List Char := Utf8.decodeLossy (decodeBytes (Utf8.encode cs))

/-- The text of some pairs. -/
def render (pairs : List (String × String)) : List Char :=
  (List.intersperse ['&'] (pairs.map fun (key, value) =>
    encode key.toList ++ '=' :: encode value.toList)).flatten

/-- The pair of a piece, with the empty value where there is no `=`. -/
def pair (piece : List Char) : String × String :=
  let (key, value) := cut (· = '=') piece
  (String.ofList (decode key), String.ofList (decode (value.getD [])))

/-- The pairs of a query string. -/
def parse (cs : List Char) : List (String × String) :=
  ((pieces (· = '&') cs).filter (· ≠ [])).map pair

/-! ## Written characters -/

/-- A character of an encoded text is plain, a plus or a percent sign. -/
theorem mem_encode {x : Char} {cs : List Char} (h : x ∈ encode cs) :
    isPlain x = true ∨ x = '+' ∨ x = '%' := by
  obtain ⟨c, -, h⟩ := List.mem_flatMap.1 h
  unfold encodeChar at h
  split at h
  · exact .inr (.inl (List.mem_singleton.1 h))
  · exact Percent.forall_mem_escapeChar (P := fun x => isPlain x = true ∨ x = '+' ∨ x = '%') .inl
      (.inr (.inr rfl)) (by decide) x h

/-- Marks that are not written as they are stand in no encoded text. -/
theorem ne_of_mem_encode {mark : Char} (hplain : isPlain mark = false) (hplus : mark ≠ '+')
    (hpercent : mark ≠ '%') (cs : List Char) : ∀ x ∈ encode cs, decide (x = mark) = false := by
  intro x hx
  rw [decide_eq_false_iff_not]
  rintro rfl
  rcases mem_encode hx with h | h | h
  · rw [hplain] at h
    cases h
  · exact hplus h
  · exact hpercent h

/-- No separator of pairs stands in an encoded text. -/
theorem ampersand_notMem_encode (cs : List Char) : ∀ x ∈ encode cs, decide (x = '&') = false :=
  ne_of_mem_encode (by decide) (by decide) (by decide) cs

/-- No separator of key and value stands in an encoded text. -/
theorem equals_notMem_encode (cs : List Char) : ∀ x ∈ encode cs, decide (x = '=') = false :=
  ne_of_mem_encode (by decide) (by decide) (by decide) cs

/-! ## Round trips -/

/-- A text without plus signs has no byte of one. -/
theorem map_plus_encode {cs : List Char} (h : ∀ c ∈ cs, c ≠ '+') :
    (Utf8.encode cs).map (fun b => if b = 0x2B then 0x20 else b) = Utf8.encode cs := by
  have hid : ∀ b ∈ Utf8.encode cs, (if b = 0x2B then 0x20 else b) = id b := by
    intro b hb
    refine if_neg ?_
    rintro rfl
    obtain ⟨c, hc, hb⟩ := List.mem_flatMap.1 hb
    exact h c hc (Utf8.eq_ofNat_of_mem_encodeChar hb (by decide))
  rw [List.map_congr_left hid, List.map_id]

/-- An encoded character is read as its bytes. -/
theorem decodeBytes_encodeChar (c : Char) (bs : Bytes) :
    decodeBytes (Utf8.encode (encodeChar c) ++ bs) = String.utf8EncodeChar c ++ decodeBytes bs := by
  unfold encodeChar decodeBytes
  split
  · rename_i hc
    subst hc
    have hp : Utf8.encode ['+'] = [0x2B] := by decide
    have hs : String.utf8EncodeChar ' ' = [0x20] := by decide
    rw [hp, hs, List.cons_append, List.nil_append, List.map_cons, if_pos rfl,
      Percent.decode_cons_of_ne (by decide), List.cons_append, List.nil_append]
  · have hplus : ∀ x ∈ Percent.escapeChar isPlain c, x ≠ '+' := by
      refine Percent.forall_mem_escapeChar (fun hc => ?_) (by decide) (by decide)
      rintro rfl
      exact absurd hc (by decide)
    rw [List.map_append, map_plus_encode hplus, Percent.decode_escapeChar (by decide)]

/-- An encoded text is read as its bytes. -/
theorem decodeBytes_encode (cs : List Char) : decodeBytes (Utf8.encode (encode cs)) = Utf8.encode cs := by
  induction cs with
  | nil => rfl
  | cons c cs ih =>
    rw [encode, List.flatMap_cons, Utf8.encode_append, decodeBytes_encodeChar, ← encode, ih,
      Utf8.encode_cons]

/-- An encoded text is read as that text. -/
theorem decode_encode (cs : List Char) : decode (encode cs) = cs := by
  rw [decode, decodeBytes_encode, Utf8.decodeLossy_encode]

/-- A written pair is read as that pair. -/
theorem pair_write (key value : String) :
    pair (encode key.toList ++ '=' :: encode value.toList) = (key, value) := by
  rw [pair, cut_append_cons (equals_notMem_encode _) (by decide)]
  simp [decode_encode]

/-- A written pair holds no separator of pairs. -/
theorem ampersand_notMem_write (key value : String) :
    ∀ x ∈ encode key.toList ++ '=' :: encode value.toList, decide (x = '&') = false := by
  intro x hx
  rcases List.mem_append.1 hx with hx | hx
  · exact ampersand_notMem_encode _ x hx
  rcases List.mem_cons.1 hx with rfl | hx
  · decide
  · exact ampersand_notMem_encode _ x hx

/-- Written pairs are read as those pairs. -/
theorem parse_render (ps : List (String × String)) : parse (render ps) = ps := by
  cases ps with
  | nil => rfl
  | cons p ps =>
    rw [parse, render, pieces_intersperse (by decide) (by simp)]
    · rw [List.filter_eq_self.2, List.map_map]
      · refine (List.map_congr_left ?_).trans (List.map_id _)
        rintro ⟨key, value⟩ -
        exact pair_write key value
      · intro xs hxs
        obtain ⟨⟨key, value⟩, -, rfl⟩ := List.mem_map.1 hxs
        simp
    · intro xs hxs
      obtain ⟨⟨key, value⟩, -, rfl⟩ := List.mem_map.1 hxs
      exact ampersand_notMem_write key value

end Signpost.Urlencoded

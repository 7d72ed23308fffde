import Signpost.Json.Writer
import Signpost.Proofs.Json.Text

/-!
# JSON documents read back

* `IsWritten`: values whose numbers and texts have the written form.
* `readValue?_render`, `readItems?_render`, `readMembers?_render`: a written value is read in front of
  anything that does not go on with a number. The budget of two steps for each byte suffices.
* `parse?_render`: a written document is read whole.
-/

namespace Signpost.Json

/-! ## Written values -/

mutual

/-- The numbers, texts and names in the value have the form in which they are written. -/
def IsWritten : Json → Prop
  | .null => True
  | .bool _ => True
  | .number written => isNumber written = true ∧ ∀ b ∈ written, isNumberByte b = true
  | .text written => ∃ cs, written = escape cs
  | .array items => AreWritten items
  | .object members => AreWrittenMembers members

def AreWritten : List Json → Prop
  | [] => True
  | item :: items => item.IsWritten ∧ AreWritten items

def AreWrittenMembers : List (Bytes × Json) → Prop
  | [] => True
  | (key, value) :: members => (∃ cs, key = escape cs) ∧ value.IsWritten ∧ AreWrittenMembers members

end

/-- What follows a value does not go on with a number. -/
def EndsNumber (rest : Bytes) : Prop := ∀ b ∈ rest.head?, isNumberByte b = false

theorem endsNumber_cons {b : UInt8} (h : isNumberByte b = false) (rest : Bytes) :
    EndsNumber (b :: rest) := by
  intro c hc
  rw [← Option.mem_some_iff.1 hc]
  exact h

theorem endsNumber_renderItems (items : List Json) (rest : Bytes) :
    EndsNumber (renderItems items ++ rest) := by
  cases items with
  | nil => exact endsNumber_cons (by decide) _
  | cons item items => exact endsNumber_cons (by decide) _

theorem endsNumber_renderMembers (members : List (Bytes × Json)) (rest : Bytes) :
    EndsNumber (renderMembers members ++ rest) := by
  cases members with
  | nil => exact endsNumber_cons (by decide) _
  | cons member members => exact endsNumber_cons (by decide) _

/-- A number begins with a digit or a minus sign. -/
theorem exists_cons_of_isNumber {written : Bytes} (h : isNumber written = true) :
    ∃ b bs, written = b :: bs := by
  cases written with
  | nil => cases h
  | cons b bs => exact ⟨b, bs, rfl⟩

theorem skipSpace_cons {b : UInt8} (h : isSpace b = false) (bs : Bytes) :
    skipSpace (b :: bs) = b :: bs := by
  rw [skipSpace, List.dropWhile_cons_of_neg (by simp [h])]

theorem isSpace_of_isNumberByte {b : UInt8} (h : isNumberByte b = true) :
    isSpace b = false ∧ b ≠ 0x5D := by
  refine ⟨?_, ?_⟩
  · rw [Bool.eq_false_iff]
    intro hs
    simp only [isSpace, Bool.or_eq_true, decide_eq_true_eq] at hs
    rcases hs with ((rfl | rfl) | rfl) | rfl <;> revert h <;> decide
  · rintro rfl
    revert h
    decide

/-- A written value begins with neither white space nor a closing bracket. -/
theorem render_eq_cons {v : Json} (h : v.IsWritten) :
    ∃ b bs, v.render = b :: bs ∧ isSpace b = false ∧ b ≠ 0x5D := by
  cases v with
  | null => exact ⟨_, _, rfl, by decide, by decide⟩
  | bool b => cases b <;> exact ⟨_, _, rfl, by decide, by decide⟩
  | number written =>
    obtain ⟨hnumber, hbytes⟩ := h
    obtain ⟨b, bs, rfl⟩ := exists_cons_of_isNumber hnumber
    exact ⟨b, bs, rfl, isSpace_of_isNumberByte (hbytes b (by simp))⟩
  | text written => exact ⟨_, _, rfl, by decide, by decide⟩
  | array items => cases items <;> exact ⟨_, _, rfl, by decide, by decide⟩
  | object members =>
    rcases members with _ | ⟨⟨key, value⟩, members⟩ <;> exact ⟨_, _, rfl, by decide, by decide⟩

/-- A number is read up to where it ends. -/
theorem readValue?_number {written : Bytes} (h : isNumber written = true)
    (hbytes : ∀ b ∈ written, isNumberByte b = true) {rest : Bytes} (hrest : EndsNumber rest)
    (fuel : Nat) : readValue? (fuel + 1) (written ++ rest) = some (.number written, rest) := by
  have htake : (written ++ rest).takeWhile isNumberByte = written := by
    rw [List.takeWhile_append_of_pos hbytes]
    cases rest with
    | nil => simp
    | cons b rest => simp [hrest b rfl]
  obtain ⟨b, bs, hcons, hspace, -⟩ := render_eq_cons (v := .number written) ⟨h, hbytes⟩
  have hw : written = b :: bs := hcons
  have hb : isNumberByte b = true := hbytes b (by simp [hw])
  have hskip : skipSpace (written ++ rest) = b :: (bs ++ rest) := by
    rw [hw]
    exact skipSpace_cons hspace _
  rw [readValue?.eq_def]
  dsimp only
  rw [hskip]
  split
  case h_1 heq => exact absurd heq (List.cons_ne_nil _ _)
  case h_8 =>
    have hwhole : b :: (bs ++ rest) = written ++ rest := by
      rw [hw]
      rfl
    rw [hwhole]
    simp only [htake, h, if_true, List.drop_left]
  -- No literal and no opening bracket begins with a byte of a number.
  all_goals
    rename_i heq
    rw [(List.cons.inj heq).1] at hb
    exact absurd hb (by decide)

/-! ## Reading values -/

theorem skipSpace_render {v : Json} (h : v.IsWritten) (rest : Bytes) :
    skipSpace (v.render ++ rest) = v.render ++ rest ∧ ∀ more, v.render ++ rest ≠ 0x5D :: more := by
  obtain ⟨b, bs, hcons, hspace, hb⟩ := render_eq_cons h
  rw [hcons]
  refine ⟨skipSpace_cons hspace _, fun more heq => hb (List.cons.inj heq).1⟩

/-- A name and its value are read, and then what follows them. -/
theorem readMembers?_member (cs : List Char) {value : Json} {fuel : Nat} {tail : Bytes}
    (h : readValue? fuel (value.render ++ tail) = some (value, tail)) :
    readMembers? (fuel + 1)
        (0x22 :: (escape cs ++ quote :: 0x3A :: (value.render ++ tail))) =
      match skipSpace tail with
      | 0x7D :: rest => some ([(escape cs, value)], rest)
      | 0x2C :: rest =>
        (readMembers? fuel rest).map fun (members, rest) => ((escape cs, value) :: members, rest)
      | _ => none := by
  have hquote (bs : Bytes) : skipSpace (0x22 :: bs) = 0x22 :: bs := skipSpace_cons (by decide) bs
  have hcolon (bs : Bytes) : skipSpace (0x3A :: bs) = 0x3A :: bs := skipSpace_cons (by decide) bs
  rw [readMembers?.eq_def]
  simp only [hquote, scanText?_escape, hcolon]
  generalize readValue? fuel (value.render ++ tail) = read at h ⊢
  subst h
  rfl

mutual

/-- A written value is read in front of anything that does not go on with a number. -/
theorem readValue?_render : ∀ (v : Json) (fuel : Nat) (rest : Bytes), v.IsWritten →
    2 * v.render.length ≤ fuel → EndsNumber rest → readValue? fuel (v.render ++ rest) = some (v, rest)
  | .null, fuel + 1, rest, _, _, _ => rfl
  | .bool true, fuel + 1, rest, _, _, _ => rfl
  | .bool false, fuel + 1, rest, _, _, _ => rfl
  | .number written, fuel + 1, rest, h, _, hrest => readValue?_number h.1 h.2 hrest fuel
  | .text written, fuel + 1, rest, h, _, _ => by
    obtain ⟨cs, rfl⟩ := h
    have hscan := scanText?_escape cs rest
    rw [render, List.cons_append, List.append_assoc]
    show (scanText? (escape cs ++ quote :: rest)).map _ = _
    rw [hscan]
    rfl
  | .array [], fuel + 1, rest, _, _, _ => rfl
  | .array (item :: items), fuel + 1, rest, h, hfuel, _ => by
    rw [render, List.length_cons] at hfuel
    have hitems := readItems?_render (item :: items) fuel rest h (by simp)
      (by rw [renderItems, List.tail_cons]; omega)
    rw [renderItems, List.tail_cons, List.append_assoc] at hitems
    obtain ⟨hskip, hne⟩ := skipSpace_render h.1 (renderItems items ++ rest)
    rw [render, List.cons_append, List.append_assoc]
    show (match skipSpace (item.render ++ (renderItems items ++ rest)) with
      | 0x5D :: rest => some (Json.array [], rest)
      | _ => (readItems? fuel (item.render ++ (renderItems items ++ rest))).map fun (items, rest) =>
        (Json.array items, rest)) = _
    rw [hskip]
    split
    · rename_i heq
      exact absurd heq (hne _)
    · rw [hitems]
      rfl
  | .object [], fuel + 1, rest, _, _, _ => rfl
  | .object ((key, value) :: members), fuel + 1, rest, h, hfuel, _ => by
    rw [render, List.length_cons] at hfuel
    have hmembers := readMembers?_render ((key, value) :: members) fuel rest h (by simp)
      (by rw [renderMembers, List.tail_cons]; omega)
    rw [renderMembers, List.tail_cons] at hmembers
    rw [render, List.cons_append]
    show (readMembers? fuel _).map _ = _
    rw [hmembers]
    rfl
  | .null, 0, _, _, hfuel, _ => by simp [render] at hfuel
  | .bool true, 0, _, _, hfuel, _ => by simp [render] at hfuel
  | .bool false, 0, _, _, hfuel, _ => by simp [render] at hfuel
  | .number written, 0, _, h, hfuel, _ => by
    obtain ⟨b, bs, hcons, -⟩ := render_eq_cons h
    rw [hcons] at hfuel
    simp at hfuel
  | .text written, 0, _, _, hfuel, _ => by simp [render] at hfuel
  | .array [], 0, _, _, hfuel, _ => by simp [render] at hfuel
  | .array (_ :: _), 0, _, _, hfuel, _ => by simp [render] at hfuel
  | .object [], 0, _, _, hfuel, _ => by simp [render] at hfuel
  | .object ((_, _) :: _), 0, _, _, hfuel, _ => by simp [render] at hfuel

/-- Written items are read up to the closing bracket. -/
theorem readItems?_render : ∀ (items : List Json) (fuel : Nat) (rest : Bytes), AreWritten items →
    items ≠ [] → 2 * (renderItems items).tail.length ≤ fuel →
    readItems? fuel ((renderItems items).tail ++ rest) = some (items, rest)
  | [], _, _, _, hne, _ => absurd rfl hne
  | [item], fuel + 1, rest, h, _, hfuel => by
    rw [renderItems, List.tail_cons, List.length_append] at hfuel
    have hvalue := readValue?_render item fuel (0x5D :: rest) h.1
      (by simp only [renderItems, List.length_singleton] at hfuel; omega) (endsNumber_cons (by decide) _)
    rw [renderItems, List.tail_cons, renderItems, List.append_assoc, List.singleton_append, readItems?,
      hvalue]
    rfl
  | item :: next :: items, fuel + 1, rest, h, _, hfuel => by
    rw [renderItems, List.tail_cons, List.length_append, renderItems, List.length_cons] at hfuel
    have hvalue := readValue?_render item fuel (renderItems (next :: items) ++ rest) h.1 (by omega)
      (endsNumber_renderItems _ _)
    have hrest := readItems?_render (next :: items) fuel rest h.2 (by simp)
      (by rw [renderItems, List.tail_cons]; omega)
    rw [renderItems, List.tail_cons, List.append_assoc, readItems?, hvalue]
    rw [renderItems, List.tail_cons] at hrest
    rw [renderItems, List.cons_append]
    show (readItems? fuel _).map _ = _
    rw [hrest]
    rfl
  | [item], 0, _, h, _, hfuel => by
    rw [renderItems, List.tail_cons, List.length_append] at hfuel
    simp only [renderItems, List.length_singleton] at hfuel
    omega
  | item :: next :: items, 0, _, h, _, hfuel => by
    rw [renderItems, List.tail_cons, List.length_append, renderItems, List.length_cons] at hfuel
    omega

/-- Written members are read up to the closing brace. -/
theorem readMembers?_render : ∀ (members : List (Bytes × Json)) (fuel : Nat) (rest : Bytes),
    AreWrittenMembers members → members ≠ [] → 2 * (renderMembers members).tail.length ≤ fuel →
    readMembers? fuel ((renderMembers members).tail ++ rest) = some (members, rest)
  | [], _, _, _, hne, _ => absurd rfl hne
  | [(key, value)], fuel + 1, rest, h, _, hfuel => by
    obtain ⟨⟨cs, rfl⟩, hvalue, -⟩ := h
    simp only [renderMembers, List.tail_cons, List.length_cons, List.length_append] at hfuel
    have hread := readValue?_render value fuel (0x7D :: rest) hvalue (by omega)
      (endsNumber_cons (by decide) _)
    have hmember := readMembers?_member cs hread
    simp only [renderMembers, List.tail_cons, List.cons_append, List.append_assoc, List.nil_append]
    exact hmember
  | (key, value) :: next :: members, fuel + 1, rest, h, _, hfuel => by
    obtain ⟨⟨cs, rfl⟩, hvalue, hmembers⟩ := h
    have hlength : (renderMembers (next :: members)).length =
        (renderMembers (next :: members)).tail.length + 1 := by
      rw [renderMembers, List.tail_cons, List.length_cons]
    rw [renderMembers, List.tail_cons] at hfuel
    simp only [List.length_cons, List.length_append] at hfuel
    have hread := readValue?_render value fuel (renderMembers (next :: members) ++ rest)
      hvalue (by omega) (endsNumber_renderMembers _ _)
    have hrest := readMembers?_render (next :: members) fuel rest hmembers (by simp)
      (by omega)
    have hcomma : renderMembers (next :: members) ++ rest =
        0x2C :: ((renderMembers (next :: members)).tail ++ rest) := by
      rw [renderMembers, List.tail_cons, List.cons_append]
    have hmember := readMembers?_member cs hread
    rw [hcomma, skipSpace_cons (by decide)] at hmember
    simp only [hrest] at hmember
    rw [renderMembers, List.tail_cons]
    simp only [List.cons_append, List.append_assoc, hcomma]
    exact hmember
  | (key, value) :: members, 0, _, _, _, hfuel => by
    rw [renderMembers, List.tail_cons, List.length_cons] at hfuel
    omega

end

/-! ## Documents -/

/-- A written document is read whole. -/
theorem parse?_render {v : Json} (h : v.IsWritten) : parse? v.render = some v := by
  have hread := readValue?_render v (2 * v.render.length + 1) [] h (by omega) nofun
  rw [List.append_nil] at hread
  rw [parse?, hread]
  rfl

end Signpost.Json

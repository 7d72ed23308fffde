/-!
# Text forms

A type with a text form is written in one way, and read from that text and perhaps from others.

* `LawfulTextForm`: what is written reads back as the same value.
* `TextForm.canonical?` reads only the text that is also written, so each value has one spelling.
-/

namespace Signpost

/-- A written form for the values of a type. -/
class TextForm (α : Type) where
  /-- The text of a value. -/
  write : α → String
  /-- The value of a text, which may have more spellings than the written one. -/
  read? : String → Option α

/-- Every value reads back from its own text. -/
class LawfulTextForm (α : Type) [TextForm α] : Prop where
  read?_write : ∀ a : α, TextForm.read? (TextForm.write a) = some a

namespace TextForm

variable {α : Type} [TextForm α]

/-- The value whose written text is exactly `text`. -/
def canonical? (text : String) : Option α :=
  match read? text with
  | some a => if write a = text then some a else none
  | none => none

/-- A value is read canonically from its written text only. -/
theorem write_of_canonical? {text : String} {a : α} (h : canonical? text = some a) :
    write a = text := by
  unfold canonical? at h
  split at h
  · split at h
    · rename_i hw
      cases h
      exact hw
    · cases h
  · cases h

/-- Canonical reading takes every written text of a lawful form. -/
theorem canonical?_write [LawfulTextForm α] (a : α) : canonical? (write a) = some a := by
  simp [canonical?, LawfulTextForm.read?_write]

/-- A value is read canonically from its own text when it is read from it at all. -/
theorem canonical?_write_iff {a : α} : canonical? (write a) = some a ↔ read? (write a) = some a := by
  unfold canonical?
  rcases (read? (write a) : Option α) with _ | b
  · rfl
  · by_cases hb : write b = write a
    · simp only [if_pos hb]
    · simp only [if_neg hb, reduceCtorEq, false_iff]
      intro h
      cases h
      exact hb rfl

theorem canonical?_eq_some_iff [LawfulTextForm α] {text : String} {a : α} :
    canonical? text = some a ↔ text = write a :=
  ⟨fun h => (write_of_canonical? h).symm, fun h => h ▸ canonical?_write a⟩

end TextForm

/-- A text is its own text form. -/
instance : TextForm String := ⟨id, some⟩

instance : LawfulTextForm String := ⟨fun _ => rfl⟩

/-- The truth values are written `true` and `false`. -/
instance : TextForm Bool where
  write b := if b then "true" else "false"
  read? text := if text = "true" then some true else if text = "false" then some false else none

instance : LawfulTextForm Bool := ⟨by decide⟩

/-- A character is written as the text of that one character. -/
instance : TextForm Char where
  write c := String.singleton c
  read? text :=
    match text.toList with
    | [c] => some c
    | _ => none

instance : LawfulTextForm Char := ⟨fun c => by simp [TextForm.read?, TextForm.write]⟩

end Signpost

import Signpost.TextForm

/-!
# Partial conversions

A conversion reads a value of one type as a value of another and writes it back. Both directions may
refuse a value.

* `Conversion.Exact`: what is read is written back as it was.
* `Conversion.Faithful`: what is written reads back as the same value.
* `text`, `enumeration`, `case` and `ofPartial` build conversions; `andThen` and `both` combine them.
-/

namespace Signpost

variable {α β γ δ : Type}

/-- Two partial functions, one for reading and one for writing. -/
structure Conversion (α β : Type) where
  /-- Reading: refuses an input that stands for no value. -/
  apply : α → Option β
  /-- Writing: refuses a value that belongs elsewhere. -/
  unapply : β → Option α

namespace Conversion

/-- Whatever is read is written back unchanged. -/
def Exact (c : Conversion α β) : Prop := ∀ a b, c.apply a = some b → c.unapply b = some a

/-- Whatever is written reads back as the same value. -/
def Faithful (c : Conversion α β) : Prop := ∀ b a, c.unapply b = some a → c.apply a = some b

/-- A conversion from any two partial functions. -/
def ofPartial (apply : α → Option β) (unapply : β → Option α) : Conversion α β := ⟨apply, unapply⟩

/-- One case of a sum: every input is wrapped, and only a value of the case is unwrapped. -/
def case (wrap : α → β) (unwrap : β → Option α) : Conversion α β := ⟨fun a => some (wrap a), unwrap⟩

/-- The canonical text of a value: other spellings are refused. -/
def text (α : Type) [TextForm α] : Conversion String α :=
  ⟨TextForm.canonical?, fun a => some (TextForm.write a)⟩

/-- The names of a table. The first entry of a name is read, the first entry of a value is written. -/
def enumeration [DecidableEq β] (table : List (String × β)) : Conversion String β where
  apply name := (table.find? (·.1 = name)).map (·.2)
  unapply value := (table.find? (·.2 = value)).map (·.1)

/-- One conversion after another; writing goes the other way. -/
def andThen (c : Conversion α β) (d : Conversion β γ) : Conversion α γ where
  apply a := (c.apply a).bind d.apply
  unapply x := (d.unapply x).bind c.unapply

/-- Two conversions side by side; the pair is refused when either part is. -/
def both (c : Conversion α β) (d : Conversion γ δ) : Conversion (α × γ) (β × δ) where
  apply p := (c.apply p.1).bind fun b => (d.apply p.2).map fun x => (b, x)
  unapply p := (c.unapply p.1).bind fun a => (d.unapply p.2).map fun x => (a, x)

/-! ## Round trips -/

theorem exact_text [TextForm α] : (text α).Exact := fun _ _ h =>
  congrArg some (TextForm.write_of_canonical? h)

theorem faithful_text [TextForm α] [LawfulTextForm α] : (text α).Faithful := by
  intro b a h
  cases h
  exact TextForm.canonical?_write b

theorem Exact.andThen {c : Conversion α β} {d : Conversion β γ} (hc : c.Exact) (hd : d.Exact) :
    (c.andThen d).Exact := by
  intro a x h
  obtain ⟨b, hb, hx⟩ := Option.bind_eq_some_iff.1 h
  simp [Conversion.andThen, hd b x hx, hc a b hb]

theorem Faithful.andThen {c : Conversion α β} {d : Conversion β γ} (hc : c.Faithful)
    (hd : d.Faithful) : (c.andThen d).Faithful := by
  intro x a h
  obtain ⟨b, hb, ha⟩ := Option.bind_eq_some_iff.1 h
  simp [Conversion.andThen, hc b a ha, hd x b hb]

theorem Exact.both {c : Conversion α β} {d : Conversion γ δ} (hc : c.Exact) (hd : d.Exact) :
    (c.both d).Exact := by
  rintro ⟨a, x⟩ p h
  obtain ⟨b, hb, h⟩ := Option.bind_eq_some_iff.1 h
  obtain ⟨y, hy, rfl⟩ := Option.map_eq_some_iff.1 h
  simp [Conversion.both, hc a b hb, hd x y hy]

theorem Faithful.both {c : Conversion α β} {d : Conversion γ δ} (hc : c.Faithful)
    (hd : d.Faithful) : (c.both d).Faithful := by
  rintro ⟨b, y⟩ p h
  obtain ⟨a, ha, h⟩ := Option.bind_eq_some_iff.1 h
  obtain ⟨x, hx, rfl⟩ := Option.map_eq_some_iff.1 h
  simp [Conversion.both, hc b a ha, hd y x hx]

end Conversion

end Signpost

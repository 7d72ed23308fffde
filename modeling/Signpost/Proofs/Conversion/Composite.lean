import Signpost.Conversion
import Signpost.Proofs.Calendar.Date
import Signpost.Proofs.Query.Merge
import Signpost.Ranged

/-!
# Conversions built from conversions

Chains and zips of lawful conversions are lawful, however they are nested.

* `IsLeaf`: text forms, tables, cases of a sum and lawful pairs of partial functions. `IsLeaf.exact`: what they
  read they write back.
* `IsBuiltFrom`: conversions that are built from some leaves.
* `obeys_of_isBuiltFrom`: what such a conversion reads it writes back, and what it writes it reads back if its
  leaves do.
-/

namespace Signpost.Conversion

variable {α β γ δ : Type}

/-! ## Leaves -/

/-- `unwrap` is the pattern of the constructor `wrap`: it matches what was wrapped, and gives its fields. -/
def IsPattern (wrap : α → β) (unwrap : β → Option α) : Prop := ∀ b a, unwrap b = some a ↔ b = wrap a

/-- A case is exact if what was wrapped is unwrapped. -/
@[simp] theorem exact_case_iff {wrap : α → β} {unwrap : β → Option α} :
    (case wrap unwrap).Exact ↔ ∀ a, unwrap (wrap a) = some a := by
  constructor
  · intro h a
    exact h a (wrap a) rfl
  · intro h a b hb
    cases hb
    exact h a

theorem IsPattern.faithful {wrap : α → β} {unwrap : β → Option α} (h : IsPattern wrap unwrap) :
    (case wrap unwrap).Faithful := fun b a hb => congrArg some ((h b a).1 hb).symm

section Enumeration

variable [DecidableEq β] {table : List (String × β)} {name : String} {value : β}

/-- A name is read as the value that stands beside it. -/
theorem apply_enumeration_iff (hnames : (table.map (·.1)).Nodup) :
    (enumeration table).apply name = some value ↔ (name, value) ∈ table := by
  rw [enumeration, Option.map_eq_some_iff]
  constructor
  · rintro ⟨entry, hentry, rfl⟩
    obtain ⟨hmem, rfl⟩ := (find?_key_eq_some_iff hnames).1 hentry
    exact hmem
  · intro hmem
    exact ⟨_, (find?_key_eq_some_iff hnames).2 ⟨hmem, rfl⟩, rfl⟩

/-- A value is written as the name that stands beside it. -/
theorem unapply_enumeration_iff (hvalues : (table.map (·.2)).Nodup) :
    (enumeration table).unapply value = some name ↔ (name, value) ∈ table := by
  rw [enumeration, Option.map_eq_some_iff]
  constructor
  · rintro ⟨entry, hentry, rfl⟩
    obtain ⟨hmem, rfl⟩ := (find?_key_eq_some_iff hvalues).1 hentry
    exact hmem
  · intro hmem
    exact ⟨_, (find?_key_eq_some_iff hvalues).2 ⟨hmem, rfl⟩, rfl⟩

/-- A table in which nothing stands twice is exact. -/
theorem exact_enumeration (hnames : (table.map (·.1)).Nodup) (hvalues : (table.map (·.2)).Nodup) :
    (enumeration table).Exact := fun _ _ h =>
  (unapply_enumeration_iff hvalues).2 ((apply_enumeration_iff hnames).1 h)

theorem faithful_enumeration (hnames : (table.map (·.1)).Nodup) (hvalues : (table.map (·.2)).Nodup) :
    (enumeration table).Faithful := fun _ _ h =>
  (apply_enumeration_iff hnames).2 ((unapply_enumeration_iff hvalues).1 h)

end Enumeration

/-- The conversions that others are built from. -/
inductive IsLeaf : {α β : Type} → Conversion α β → Prop
  /-- The texts of a type, whether or not all of its values read back. -/
  | text (α : Type) [TextForm α] : IsLeaf (text α)
  /-- A table in which no name and no value stands twice. -/
  | enumeration {β : Type} [DecidableEq β] {table : List (String × β)} (hnames : (table.map (·.1)).Nodup)
      (hvalues : (table.map (·.2)).Nodup) : IsLeaf (enumeration table)
  /-- A constructor and its pattern. -/
  | case {α β : Type} {wrap : α → β} {unwrap : β → Option α} (h : IsPattern wrap unwrap) :
      IsLeaf (case wrap unwrap)
  /-- Two partial functions that obey the law. -/
  | ofPartial {α β : Type} {apply : α → Option β} {unapply : β → Option α}
      (h : ∀ a b, apply a = some b → unapply b = some a) : IsLeaf (ofPartial apply unapply)

theorem IsLeaf.exact {c : Conversion α β} (h : c.IsLeaf) : c.Exact := by
  cases h with
  | text => exact exact_text
  | enumeration hnames hvalues => exact exact_enumeration hnames hvalues
  | case h => exact exact_case_iff.2 fun a => (h _ a).2 rfl
  | ofPartial h => exact h

/-! ## Chains and zips -/

/-- The conversion is built from leaves by chains and zips. A zip of more than two is one of its first and of
the others, as a longer tuple is a pair of its first value and of the others; a zip of one is that one. -/
inductive IsBuiltFrom (Leaf : {α β : Type} → Conversion α β → Prop) :
    {α β : Type} → Conversion α β → Prop
  | leaf {α β : Type} {c : Conversion α β} (h : Leaf c) : IsBuiltFrom @Leaf c
  | andThen {α β γ : Type} {c : Conversion α β} {d : Conversion β γ} (hc : IsBuiltFrom @Leaf c)
      (hd : IsBuiltFrom @Leaf d) : IsBuiltFrom @Leaf (c.andThen d)
  | both {α β γ δ : Type} {c : Conversion α β} {d : Conversion γ δ} (hc : IsBuiltFrom @Leaf c)
      (hd : IsBuiltFrom @Leaf d) : IsBuiltFrom @Leaf (c.both d)

namespace IsBuiltFrom

variable {Leaf : {α β : Type} → Conversion α β → Prop} {c : Conversion α β}

theorem exact (h : c.IsBuiltFrom Leaf) (hleaf : ∀ {α β : Type} {l : Conversion α β}, Leaf l → l.Exact) :
    c.Exact := by
  induction h with
  | leaf h => exact hleaf h
  | andThen _ _ ihc ihd => exact ihc.andThen ihd
  | both _ _ ihc ihd => exact ihc.both ihd

theorem faithful (h : c.IsBuiltFrom Leaf)
    (hleaf : ∀ {α β : Type} {l : Conversion α β}, Leaf l → l.Faithful) : c.Faithful := by
  induction h with
  | leaf h => exact hleaf h
  | andThen _ _ ihc ihd => exact ihc.andThen ihd
  | both _ _ ihc ihd => exact ihc.both ihd

end IsBuiltFrom

/-- What is read through chains and zips of leaves is written back as it was. If each leaf reads what it
writes as the same value, so does the whole. -/
theorem obeys_of_isBuiltFrom (c : Conversion α β) :
    (c.IsBuiltFrom IsLeaf → c.Exact) ∧
      (c.IsBuiltFrom (fun l => l.IsLeaf ∧ l.Faithful) → c.Exact ∧ c.Faithful) :=
  ⟨fun h => h.exact IsLeaf.exact,
    fun h => ⟨h.exact fun hl => hl.1.exact, h.faithful fun hl => hl.2⟩⟩

/-- The numbers that are not zero. -/
def positive : Conversion (Unsigned 8) (Unsigned 8) :=
  ofPartial (fun n => if n.val = 0 then none else some n) fun n => if n.val = 0 then none else some n

/-- A reminder that may not be set: its day, how many hours before it comes, and whether it comes weekly. -/
def reminder : Conversion (String × String × String) (Option (Date × Unsigned 8 × Bool)) :=
  ((text Date).both (((text (Unsigned 8)).andThen positive).both
    (enumeration [("once", false), ("weekly", true)]))).andThen (case some id)

/-- The law reaches the leaves of a reminder through a chain in a zip of three in a chain. -/
theorem obeys_reminder : reminder.IsBuiltFrom (fun l => l.IsLeaf ∧ l.Faithful) ∧
    reminder.apply ("2024-02-29", "7", "weekly") =
      some (some (⟨2024, 2, 29, by decide⟩, ⟨7, by decide, by decide⟩, true)) ∧
    reminder.unapply (some (⟨2024, 2, 29, by decide⟩, ⟨7, by decide, by decide⟩, true)) =
      some ("2024-02-29", "7", "weekly") := by
  have hpositive : positive.Exact := by
    intro n m h
    show (if m.val = 0 then none else some m) = some n
    have h : (if n.val = 0 then none else some n) = some m := h
    split_ifs at h with hzero
    cases h
    rw [if_neg hzero]
  have hswitch : (enumeration [("once", false), ("weekly", true)]).Faithful :=
    faithful_enumeration (by decide) (by decide)
  have hset : IsPattern some (id : Option (Date × Unsigned 8 × Bool) → _) := fun _ _ => .rfl
  have hbuilt : reminder.IsBuiltFrom (fun l => l.IsLeaf ∧ l.Faithful) :=
    .andThen
      (.both (.leaf ⟨.text Date, faithful_text⟩)
        (.both
          (.andThen (.leaf ⟨.text (Unsigned 8), faithful_text⟩) (.leaf ⟨.ofPartial hpositive, hpositive⟩))
          (.leaf ⟨.enumeration (by decide) (by decide), hswitch⟩)))
      (.leaf ⟨.case hset, hset.faithful⟩)
  obtain ⟨hexact, hfaithful⟩ := (obeys_of_isBuiltFrom reminder).2 hbuilt
  have happly : reminder.apply ("2024-02-29", "7", "weekly") =
      some (some (⟨2024, 2, 29, by decide⟩, ⟨7, by decide, by decide⟩, true)) := by decide
  exact ⟨hbuilt, happly, hexact _ _ happly⟩

end Signpost.Conversion

import Signpost.Proofs.Body.Record
import Signpost.Proofs.Json.Document

/-!
# Records in JSON read back

* `Layout.ReturnsJson`, `Field.ReturnsJson`, `Record.ReturnsJson`: every value is read back from what is
  written for it. A lemma for each layout and each kind of field.
* `Record.ReturnsJson.decode?_encode?`: a document decodes to the value that was encoded.
-/

namespace Signpost

variable {α β : Type}

/-- Every value is read back from its JSON value, which is not `null`. -/
structure Layout.ReturnsJson (l : Layout α) : Prop where
  isWritten : ∀ a, (l.toJson a).IsWritten
  ne_null : ∀ a, l.toJson a ≠ .null
  read : ∀ a, l.ofJson? (l.toJson a) = some a

/-- Every value of the field is read back, written or not. -/
def Field.ReturnsJson (f : Field α) : Prop :=
  ∀ a, f.Returns Json.IsWritten f.ofJson? (f.toJson a) a

/-- Every value of the record is read back from its members. -/
def Record.ReturnsJson (r : Record α) : Prop :=
  ∀ a, Record.Returns r.names Json.IsWritten r.ofMembers? (r.toJson a) a

/-! ## Layouts -/

namespace Layout

theorem returnsJson_text : Layout.text.ReturnsJson where
  isWritten a := ⟨a.toList, rfl⟩
  ne_null _ := nofun
  read := Json.text?_ofText

theorem returnsJson_ofTextForm [TextForm α] [LawfulTextForm α] : (ofTextForm α).ReturnsJson where
  isWritten a := ⟨(TextForm.write a).toList, rfl⟩
  ne_null _ := nofun
  read a := by
    show (Json.ofText (TextForm.write a)).text?.bind TextForm.read? = some a
    rw [Json.text?_ofText, Option.bind_some, LawfulTextForm.read?_write]

theorem returnsJson_bool : Layout.bool.ReturnsJson where
  isWritten _ := trivial
  ne_null _ := nofun
  read _ := rfl

theorem returnsJson_ranged (lo hi : Int) : (ranged lo hi).ReturnsJson where
  isWritten a := ⟨Json.isNumber_integer a.val, fun _ hb => Json.isNumberByte_of_mem_integer hb⟩
  ne_null _ := nofun
  read a := by
    show (Json.ofInt a.val).int?.bind Ranged.ofInt? = some a
    rw [Json.int?_ofInt, Option.bind_some, Ranged.ofInt?_val]

theorem returnsJson_choice {name : α → String} {ofName? : String → Option α}
    (h : ∀ a, ofName? (name a) = some a) : (choice name ofName?).ReturnsJson where
  isWritten a := ⟨(name a).toList, rfl⟩
  ne_null _ := nofun
  read a := by
    show (Json.textOf? (Json.escape (name a).toList)).bind ofName? = some a
    rw [Json.textOf?_escape, Option.bind_some, h]

end Layout

/-! ## Fields -/

namespace Field

variable {l : Layout α}

theorem returnsJson_required (hl : l.ReturnsJson) (name : String) : (required name l).ReturnsJson :=
  fun a => returns_of_read (hl.isWritten a) (hl.read a)

theorem returnsJson_defaulted (hl : l.ReturnsJson) (name : String) (value : α) :
    (defaulted name l value).ReturnsJson :=
  fun a => returns_of_read (hl.isWritten a) (hl.read a)

theorem returnsJson_optional (hl : l.ReturnsJson) (name : String) : (optional name l).ReturnsJson := by
  rintro (_ | a)
  · exact returns_none rfl
  · refine returns_of_read (hl.isWritten a) ?_
    have hnull := hl.ne_null a
    dsimp only [optional]
    split
    · rename_i heq
      exact absurd heq hnull
    · rw [hl.read a, Option.map_some]

end Field

/-! ## Records -/

namespace Record

theorem returnsJson_nil : Record.nil.ReturnsJson := fun _ => returns_nil

theorem ReturnsJson.cons {f : Field α} {r : Record β} (hf : f.ReturnsJson) (hr : r.ReturnsJson)
    (hname : f.name ∉ r.names) : (Record.cons f r).ReturnsJson :=
  fun p => Returns.cons (hf p.1) (hr p.2) hname

theorem ReturnsJson.map {r : Record α} (hr : r.ReturnsJson) {make : α → β} {parts : β → α}
    (h : ∀ b, make (parts b) = b) : (r.map make parts).ReturnsJson := by
  intro b
  have hb := (hr (parts b)).map make
  rw [h] at hb
  exact hb

theorem areWrittenMembers_escape {entries : List (String × Json)}
    (h : ∀ entry ∈ entries, entry.2.IsWritten) :
    Json.AreWrittenMembers (entries.map fun (name, json) => (Json.escape name.toList, json)) := by
  induction entries with
  | nil => trivial
  | cons entry entries ih =>
    exact ⟨⟨_, rfl⟩, h entry (by simp), ih fun e he => h e (List.mem_cons_of_mem _ he)⟩

/-- Escaped names stand for the names. -/
theorem named?_escape (entries : List (String × Json)) :
    named? (entries.map fun (name, json) => (Json.escape name.toList, json)) = some entries := by
  induction entries with
  | nil => rfl
  | cons entry entries ih =>
    rw [named?] at ih
    rw [named?, List.map_cons, List.mapM_cons]
    simp only [Json.textOf?_escape, ih]
    rfl

/-- A record whose names are distinct is a layout of its own. -/
theorem ReturnsJson.layout {r : Record α} (hr : r.ReturnsJson) (hn : r.names.Nodup) :
    r.layout.ReturnsJson where
  isWritten a := areWrittenMembers_escape (hr a).entry
  ne_null _ := nofun
  read a := by
    show (named? ((r.toJson a).map fun (name, json) => (Json.escape name.toList, json))).bind _ = some a
    rw [named?_escape, Option.bind_some, if_pos ((hr a).isUnambiguous hn), (hr a).read_written]

/-- A document decodes to the value that was encoded. -/
theorem ReturnsJson.decode?_encode? {r : Record α} (hr : r.ReturnsJson) (hn : r.names.Nodup) (a : α) :
    ∃ bytes, r.json.encode? a = some bytes ∧ r.json.decode? bytes = some a := by
  have hl := hr.layout hn
  refine ⟨_, rfl, ?_⟩
  show (Json.parse? (r.layout.toJson a).render).bind r.layout.ofJson? = some a
  rw [Json.parse?_render (hl.isWritten a), Option.bind_some, hl.read]

end Record

end Signpost

import Mathlib.Tactic.Common
import Signpost.Body.Record

/-!
# Fields of records read back

What a record writes is a list of named entries, in JSON as in a form. The fields are looked up by their
names, which are distinct, so each field finds what it wrote itself.

* `BodyCodec.Stable`: what a codec reads from a body in memory is read again from what it writes.
* `Field.Returns`, `Record.Returns`: what was written for a value is read as that value.
* `Record.returns_nil`, `Record.Returns.cons`, `Record.Returns.map`: the law for each part of a record.
* `Record.Returns.isUnambiguous`: no written name stands twice.
* `Record.json_decode?_nil`, `Record.form_decode?_nil`: records that are not read from the empty body.
-/

namespace Signpost

variable {α β κ : Type}

/-! ## Stable codecs -/

/-- The bytes can be held in memory, where no byte vector is longer than 2^63 - 1. -/
def FitsMemory (bytes : Bytes) : Prop := bytes.length ≤ 0x7FFFFFFFFFFFFFFF

theorem fitsMemory_nil : FitsMemory [] := Nat.zero_le _

/-- Whatever is read from a body that fits into memory is written, perhaps in another way, and read
back from that. -/
def BodyCodec.Stable (c : BodyCodec α) : Prop :=
  ∀ bytes a, FitsMemory bytes → c.decode? bytes = some a →
    ∃ written, c.encode? a = some written ∧ c.decode? written = some a

/-! ## Fields -/

/-- What a field writes for a value is read as that value, and a field that writes nothing has that value
when it is missing. All that is written satisfies `P`. -/
structure Field.Returns (f : Field α) (P : κ → Prop) (read? : κ → Option α) (written : Option κ) (a : α) :
    Prop where
  entry : ∀ entry ∈ written, P entry ∧ read? entry = some a
  missing : written = none → f.missing = some a

/-- What a record writes for a value is read as that value, among whatever entries of other names. All
that is written satisfies `P`. -/
structure Record.Returns (names : List String) (P : κ → Prop) (read? : List (String × κ) → Option α)
    (written : List (String × κ)) (a : α) : Prop where
  sublist : (written.map (·.1)).Sublist names
  entry : ∀ entry ∈ written, P entry.2
  read : ∀ entries, (∀ name ∈ names, entries.find? (·.1 = name) = written.find? (·.1 = name)) →
    read? entries = some a

theorem Field.returns_of_read {f : Field α} {P : κ → Prop} {read? : κ → Option α} {entry : κ} {a : α}
    (hp : P entry) (hread : read? entry = some a) : f.Returns P read? (some entry) a where
  entry k hk := by
    rw [← Option.mem_some_iff.1 hk]
    exact ⟨hp, hread⟩
  missing h := nomatch h

theorem Field.returns_none {f : Field α} {P : κ → Prop} {read? : κ → Option α} {a : α}
    (h : f.missing = some a) : f.Returns P read? none a where
  entry _ hk := nomatch hk
  missing _ := h

namespace Record

variable {P : κ → Prop} {names : List String}

theorem find?_eq_none_of_sublist {written : List (String × κ)}
    (h : (written.map (·.1)).Sublist names) {name : String} (hname : name ∉ names) :
    written.find? (·.1 = name) = none := by
  rw [List.find?_eq_none]
  intro entry hentry heq
  have hmem : entry.1 ∈ names := h.subset (List.mem_map_of_mem hentry)
  rw [of_decide_eq_true heq] at hmem
  exact hname hmem

theorem find?_cons_of_notMem {other : String} {k : κ} {written : List (String × κ)} {name : String}
    (h : other ≠ name) :
    ((other, k) :: written).find? (·.1 = name) = written.find? (·.1 = name) :=
  List.find?_cons_of_neg (by simpa using h)

theorem returns_nil : Returns [] P (fun _ => some ()) ([] : List (String × κ)) () where
  sublist := .slnil
  entry _ h := nomatch h
  read _ _ := rfl

/-- A field in front of others, whose name none of them has. -/
theorem Returns.cons {f : Field α} {readField? : κ → Option α} {k? : Option κ} {a : α}
    (hf : f.Returns P readField? k? a) {read? : List (String × κ) → Option β}
    {written : List (String × κ)} {b : β} (hr : Returns names P read? written b)
    (hname : f.name ∉ names) :
    Returns (f.name :: names) P
      (fun entries => (look f readField? entries).bind fun a => (read? entries).map fun b => (a, b))
      ((k?.map fun k => (f.name, k)).toList ++ written) (a, b) := by
  have hnone := find?_eq_none_of_sublist hr.sublist hname
  rcases k? with _ | k
  · refine ⟨hr.sublist.cons _, hr.entry, fun entries h => ?_⟩
    have hfield : entries.find? (·.1 = f.name) = none := (h f.name (by simp)).trans hnone
    have hlook : look f readField? entries = some a := by
      rw [look, hfield]
      exact hf.missing rfl
    have hrest : read? entries = some b :=
      hr.read entries fun name hmem => h name (List.mem_cons_of_mem _ hmem)
    simp only [hlook, hrest, Option.bind_some, Option.map_some]
  · obtain ⟨hp, hread⟩ := hf.entry k rfl
    refine ⟨hr.sublist.cons_cons _, ?_, fun entries h => ?_⟩
    · intro entry hmem
      rcases List.mem_cons.1 hmem with rfl | hmem
      · exact hp
      · exact hr.entry entry hmem
    · have hfield : entries.find? (·.1 = f.name) = some (f.name, k) :=
        (h f.name (by simp)).trans (List.find?_cons_of_pos (by simp))
      have hlook : look f readField? entries = some a := by
        rw [look, hfield]
        exact hread
      have hrest : read? entries = some b := by
        refine hr.read entries fun name hmem => ?_
        have hne : f.name ≠ name := fun heq => hname (heq ▸ hmem)
        exact (h name (List.mem_cons_of_mem _ hmem)).trans (find?_cons_of_notMem hne)
      simp only [hlook, hrest, Option.bind_some, Option.map_some]

theorem Returns.map {read? : List (String × κ) → Option α} {written : List (String × κ)} {a : α}
    (h : Returns names P read? written a) (make : α → β) :
    Returns names P (fun entries => (read? entries).map make) written (make a) where
  sublist := h.sublist
  entry := h.entry
  read entries he := by rw [h.read entries he, Option.map_some]

/-- What was written is read as it stands. -/
theorem Returns.read_written {read? : List (String × κ) → Option α} {written : List (String × κ)} {a : α}
    (h : Returns names P read? written a) : read? written = some a :=
  h.read written fun _ _ => rfl

/-- No name stands twice in what was written, if the names are distinct. -/
theorem Returns.isUnambiguous {r : Record β} {read? : List (String × κ) → Option α}
    {written : List (String × κ)} {a : α} (h : Returns r.names P read? written a) (hn : r.names.Nodup) :
    r.isUnambiguous written = true := by
  rw [Record.isUnambiguous, List.all_eq_true]
  intro name _
  have hcount : (written.map (·.1)).count name ≤ 1 :=
    List.nodup_iff_count.1 (hn.sublist h.sublist) name
  rw [List.count, List.countP_map] at hcount
  rw [decide_eq_true_eq]
  exact le_of_eq_of_le (List.countP_congr fun _ _ => by simp) hcount

/-! ## Empty bodies -/

/-- No JSON document is empty. -/
theorem json_decode?_nil (r : Record α) : r.json.decode? [] = none := rfl

/-- A record that begins with a required field has no empty form. -/
theorem form_decode?_nil {name : String} {layout : Layout α} {rest : Record β} {make : α × β → κ}
    {parts : κ → α × β} :
    ((cons (.required name layout) rest).map make parts).form.decode? [] = none := by
  -- an empty body is a form without fields
  show ofEntries? ((cons (.required name layout) rest).map make parts) [] = none
  unfold ofEntries?
  split
  · rfl
  · rfl

end Record

end Signpost

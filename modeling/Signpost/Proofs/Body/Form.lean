import Signpost.Proofs.Body.Record
import Signpost.Proofs.Form.Breadth
import Signpost.Proofs.Form.Document

/-!
# Records in forms read back

A form body does not tell an empty text from a missing one, so not every value of a record comes back from
what is written for it. Those that were read from a form do.

* `Layout.Regains`, `Field.Regains`, `Record.Regains`: a value is read back from what is written for it.
  There is a lemma for each layout and each kind of field.
* `Layout.ReturnsForm`, `Field.ReturnsForm`, `Record.ReturnsForm`: so are all values that were read from a
  node with short lists.
* `Record.Regains.decode?_encode?`: a body decodes to the value that was encoded.
* `Record.ReturnsForm.decode?_encode?`: what a body decodes to is encoded and decoded again.
-/

namespace Signpost

open Form (Node)

variable {α β : Type}

/-- The lists of a tree are so short that all their positions have a number. -/
def Form.Node.IsShort (node : Node) : Prop := node.breadth < UInt64.size

theorem Form.Node.isShort_flat (text : String) : (flat text).IsShort := by
  show 0 < UInt64.size
  decide

/-- The value is written within some levels and read back. -/
def Layout.Regains (levels : Nat) (l : Layout α) (a : α) : Prop :=
  (l.toForm a).IsWritten levels ∧ l.ofForm? (l.toForm a) = some a

/-- The value is read back, written or not. -/
def Field.Regains (levels : Nat) (f : Field α) (a : α) : Prop :=
  f.Returns (Node.IsWritten levels) f.ofForm? (f.toForm a) a

/-- The value is read back from its fields. -/
def Record.Regains (levels : Nat) (r : Record α) (a : α) : Prop :=
  Record.Returns r.names (Node.IsWritten levels) r.ofFields? (r.toForm a) a

/-- Every value that is read is written within some levels and read back. -/
def Layout.ReturnsForm (levels : Nat) (l : Layout α) : Prop :=
  ∀ node a, node.IsShort → l.ofForm? node = some a →
    (l.toForm a).IsWritten levels ∧ l.ofForm? (l.toForm a) = some a

/-- The empty text is written only for what was read from it. -/
def Layout.KeepsEmpty (l : Layout α) : Prop :=
  ∀ node a, l.ofForm? node = some a → l.toForm a = .flat "" → node = .flat ""

/-- Every value that is read, and the value of a missing field, is read back. -/
structure Field.ReturnsForm (levels : Nat) (f : Field α) : Prop where
  read : ∀ node a, node.IsShort → f.ofForm? node = some a →
    f.Returns (Node.IsWritten levels) f.ofForm? (f.toForm a) a
  missing : ∀ a, f.missing = some a → f.Returns (Node.IsWritten levels) f.ofForm? (f.toForm a) a

/-- Every value that is read from fields is read back. -/
def Record.ReturnsForm (levels : Nat) (r : Record α) : Prop :=
  ∀ entries a, Node.widest entries < UInt64.size → r.ofFields? entries = some a →
    Record.Returns r.names (Node.IsWritten levels) r.ofFields? (r.toForm a) a

/-! ## Layouts -/

namespace Layout

variable {levels : Nat}

theorem regains_text (text : String) : Layout.text.Regains levels text := ⟨trivial, rfl⟩

theorem returnsForm_text : Layout.text.ReturnsForm levels := fun _ text _ _ => regains_text text

theorem flat_of_flat? {node : Node} {text : String} (h : flat? node = some text) : node = .flat text := by
  cases node with
  | flat other =>
    cases h
    rfl
  | _ => cases h

theorem keepsEmpty_text : Layout.text.KeepsEmpty := by
  intro node text h hempty
  exact (flat_of_flat? h).trans hempty

theorem regains_ofTextForm [TextForm α] [LawfulTextForm α] (a : α) : (ofTextForm α).Regains levels a :=
  ⟨trivial, LawfulTextForm.read?_write a⟩

theorem returnsForm_ofTextForm [TextForm α] [LawfulTextForm α] :
    (ofTextForm α).ReturnsForm levels :=
  fun _ a _ _ => regains_ofTextForm a

/-- A text form that does not read the empty text never writes it. -/
theorem ofTextForm_ne_empty [TextForm α] [LawfulTextForm α] (h : (TextForm.read? "" : Option α) = none)
    (a : α) : (ofTextForm α).toForm a ≠ .flat "" := by
  intro hempty
  have hwrite : TextForm.write a = "" := Node.flat.inj hempty
  have hread := LawfulTextForm.read?_write a
  rw [hwrite, h] at hread
  cases hread

theorem keepsEmpty_ofTextForm [TextForm α] [LawfulTextForm α]
    (h : (TextForm.read? "" : Option α) = none) : (ofTextForm α).KeepsEmpty :=
  fun _ a _ hempty => absurd hempty (ofTextForm_ne_empty h a)

theorem regains_bool (b : Bool) : Layout.bool.Regains levels b := ⟨trivial, LawfulTextForm.read?_write b⟩

theorem returnsForm_bool : Layout.bool.ReturnsForm levels := fun _ b _ _ => regains_bool b

theorem regains_ranged {lo hi : Int} (n : Ranged lo hi) : (ranged lo hi).Regains levels n :=
  ⟨trivial, LawfulTextForm.read?_write n⟩

theorem returnsForm_ranged (lo hi : Int) : (ranged lo hi).ReturnsForm levels :=
  fun _ n _ _ => regains_ranged n

theorem regains_choice {name : α → String} {ofName? : String → Option α} {a : α}
    (h : ofName? (name a) = some a) : (choice name ofName?).Regains levels a := ⟨trivial, h⟩

theorem returnsForm_choice {name : α → String} {ofName? : String → Option α}
    (h : ∀ a, ofName? (name a) = some a) : (choice name ofName?).ReturnsForm levels :=
  fun _ a _ _ => regains_choice (h a)

/-! ## Lists of texts -/

theorem map_fst_numbered (nodes : List Node) : (numbered nodes).map (·.1) = List.range nodes.length := by
  rw [numbered, List.map_map, List.range_eq_range', ← List.zipIdx_map_snd 0 nodes]
  rfl

theorem length_of_mapM {γ δ : Type} {f : γ → Option δ} {xs : List γ} {ys : List δ}
    (h : xs.mapM f = some ys) : ys.length = xs.length := by
  induction xs generalizing ys with
  | nil =>
    cases h
    rfl
  | cons x xs ih =>
    rw [List.mapM_cons] at h
    obtain ⟨y, -, h⟩ := Option.bind_eq_some_iff.1 h
    obtain ⟨rest, hrest, h⟩ := Option.bind_eq_some_iff.1 h
    cases h
    rw [List.length_cons, List.length_cons, ih hrest]

/-- A list of texts is no longer than the longest list of the node that it was read from. -/
theorem length_texts_le {node : Node} {ts : List String} (h : texts.ofForm? node = some ts) :
    ts.length ≤ node.breadth := by
  cases node with
  | items texts =>
    cases h
    exact le_rfl
  | positions es =>
    have hlength := length_of_mapM h
    rw [List.length_mergeSort] at hlength
    rw [Node.breadth]
    omega
  | _ => cases h

/-- Texts at their positions are read in order. -/
theorem mapM_flat?_zipIdx (ts : List String) (start : Nat) :
    (((ts.map Node.flat).zipIdx start).map fun (node, index) => (index, node)).mapM
      (fun (_, node) => flat? node) = some ts := by
  induction ts generalizing start with
  | nil => rfl
  | cons t ts ih =>
    rw [List.map_cons, List.zipIdx_cons, List.map_cons, List.mapM_cons, ih (start + 1)]
    rfl

theorem ofForm?_texts (ts : List String) : texts.ofForm? (texts.toForm ts) = some ts := by
  have hsorted : (numbered (ts.map Node.flat)).Pairwise fun a b => decide (a.1 ≤ b.1) = true := by
    have hrange := List.pairwise_le_range (n := (ts.map Node.flat).length)
    rw [← map_fst_numbered, List.pairwise_map] at hrange
    exact hrange.imp fun h => decide_eq_true h
  show ((numbered (ts.map Node.flat)).mergeSort fun a b => a.1 ≤ b.1).mapM _ = _
  rw [List.mergeSort_of_pairwise hsorted]
  exact mapM_flat?_zipIdx ts 0

theorem isWritten_texts {ts : List String} (hne : ts ≠ []) (hlength : ts.length < UInt64.size) :
    (texts.toForm ts).IsWritten (levels + 1) := by
  refine ⟨Nat.succ_pos _, ?_, ?_, ?_⟩
  · intro hnil
    have hmap := map_fst_numbered (ts.map Node.flat)
    rw [hnil, List.length_map] at hmap
    simp [hne] at hmap
  · show ((numbered (ts.map Node.flat)).map (·.1)).Nodup
    rw [map_fst_numbered]
    exact List.nodup_range
  · refine Form.positionsAreWritten_of_forall fun e he => ?_
    obtain ⟨⟨node, index⟩, hmem, rfl⟩ := List.mem_map.1 he
    obtain ⟨-, hindex, hnode⟩ := List.mem_zipIdx hmem
    have hflat : node ∈ ts.map Node.flat := by
      rw [hnode]
      exact List.getElem_mem _
    obtain ⟨text, -, rfl⟩ := List.mem_map.1 hflat
    rw [List.length_map] at hindex
    exact ⟨by simpa using hindex.trans_le (by omega), trivial⟩

end Layout

/-! ## Fields -/

namespace Field

variable {levels : Nat} {l : Layout α}

theorem regains_required {a : α} (h : l.Regains levels a) (name : String) :
    (required name l).Regains levels a := returns_of_read h.1 h.2

theorem returnsForm_required (hl : l.ReturnsForm levels) (name : String) :
    (required name l).ReturnsForm levels where
  read node a hshort h := regains_required (hl node a hshort h) name
  missing _ h := nomatch h

theorem regains_defaulted {a : α} (h : l.Regains levels a) (name : String) (value : α) :
    (defaulted name l value).Regains levels a := returns_of_read h.1 h.2

/-- A value to be used for a missing field must be read back, too. -/
theorem returnsForm_defaulted (hl : l.ReturnsForm levels) {value : α} {node : Node}
    (hshort : node.IsShort) (hvalue : l.ofForm? node = some value) (name : String) :
    (defaulted name l value).ReturnsForm levels where
  read node a hshort h := regains_defaulted (hl node a hshort h) name value
  missing a h := by
    cases h
    exact regains_defaulted (hl node value hshort hvalue) name value

theorem regains_optional_none (name : String) (l : Layout α) : (optional name l).Regains levels none :=
  returns_none rfl

/-- An empty text would be read as nothing. -/
theorem regains_optional_some {a : α} (h : l.Regains levels a) (hne : l.toForm a ≠ .flat "")
    (name : String) : (optional name l).Regains levels (some a) := by
  refine returns_of_read h.1 ?_
  dsimp only [optional]
  split
  · rename_i heq
    exact absurd heq hne
  · rw [h.2, Option.map_some]

theorem regains_optional_text {text? : Option String} (h : text? ≠ some "") (name : String) :
    (optional name .text).Regains levels text? := by
  rcases text? with _ | text
  · exact regains_optional_none name .text
  · refine regains_optional_some (Layout.regains_text text) (fun heq => ?_) name
    exact h (congrArg some (Node.flat.inj heq))

theorem regains_optional_textForm [TextForm α] [LawfulTextForm α]
    (h : (TextForm.read? "" : Option α) = none) (a? : Option α) (name : String) :
    (optional name (.ofTextForm α)).Regains levels a? := by
  rcases a? with _ | a
  · exact regains_optional_none name (.ofTextForm α)
  · exact regains_optional_some (Layout.regains_ofTextForm a) (Layout.ofTextForm_ne_empty h a) name

/-- The empty form text is read as nothing. -/
theorem optional_ofForm?_cases {name : String} {node : Node} {a : Option α}
    (h : (optional name l).ofForm? node = some a) :
    a = none ∨ ∃ b, a = some b ∧ node ≠ .flat "" ∧ l.ofForm? node = some b := by
  simp only [optional] at h
  split at h
  · cases h
    exact .inl rfl
  · rename_i hne
    obtain ⟨b, hb, rfl⟩ := Option.map_eq_some_iff.1 h
    exact .inr ⟨b, rfl, hne, hb⟩

theorem returnsForm_optional (hl : l.ReturnsForm levels) (hempty : l.KeepsEmpty) (name : String) :
    (optional name l).ReturnsForm levels where
  read node a hshort h := by
    rcases optional_ofForm?_cases h with rfl | ⟨b, rfl, hne, hb⟩
    · exact regains_optional_none name l
    · exact regains_optional_some (hl node b hshort hb) (fun heq => hne (hempty node b hb heq)) name
  missing a h := by
    cases h
    exact regains_optional_none name l

theorem regains_list {ts : List String} (hlength : ts.length < UInt64.size) (name : String) :
    (Field.list name).Regains (levels + 1) ts := by
  show Field.Returns _ _ _ (if ts = [] then none else some (Layout.texts.toForm ts)) ts
  split_ifs with hnil
  · subst hnil
    exact returns_none rfl
  · exact returns_of_read (Layout.isWritten_texts hnil hlength) (Layout.ofForm?_texts ts)

theorem returnsForm_list (name : String) : (Field.list name).ReturnsForm (levels + 1) where
  read node ts hshort h := regains_list ((Layout.length_texts_le h).trans_lt hshort) name
  missing ts h := by
    cases h
    exact returns_none rfl

end Field

/-! ## Records -/

namespace Record

variable {levels : Nat}

theorem regains_nil : Record.nil.Regains levels () := returns_nil

theorem returnsForm_nil : Record.nil.ReturnsForm levels := fun _ _ _ _ => regains_nil

theorem Regains.cons {f : Field α} {r : Record β} {a : α} {b : β} (hf : f.Regains levels a)
    (hr : r.Regains levels b) (hname : f.name ∉ r.names) : (Record.cons f r).Regains levels (a, b) :=
  Returns.cons hf hr hname

theorem ofFields?_cons {f : Field α} {r : Record β} {entries : List (String × Node)} {a : α} {b : β} :
    (Record.cons f r).ofFields? entries = some (a, b) ↔
      look f f.ofForm? entries = some a ∧ r.ofFields? entries = some b := by
  constructor
  · intro h
    obtain ⟨a', ha, h⟩ := Option.bind_eq_some_iff.1 h
    obtain ⟨b', hb, h⟩ := Option.map_eq_some_iff.1 h
    cases h
    exact ⟨ha, hb⟩
  · rintro ⟨ha, hb⟩
    exact Option.bind_eq_some_iff.2 ⟨a, ha, by rw [hb, Option.map_some]⟩

theorem ofFields?_map {r : Record α} {make : α → β} {parts : β → α} {entries : List (String × Node)} :
    (r.map make parts).ofFields? entries = (r.ofFields? entries).map make := rfl

/-- An optional text that is read from a form is not empty. -/
theorem ne_some_empty_of_look {name : String} {entries : List (String × Node)} {text? : Option String}
    (h : look (.optional name .text) (Field.optional name .text).ofForm? entries = some text?) :
    text? ≠ some "" := by
  unfold look at h
  split at h
  · rename_i node hfind
    rintro rfl
    rcases Field.optional_ofForm?_cases h with hnone | ⟨text, htext, hne, hread⟩
    · cases hnone
    · cases htext
      exact hne (Layout.flat_of_flat? hread)
  · cases h
    exact nofun

theorem ReturnsForm.cons {f : Field α} {r : Record β} (hf : f.ReturnsForm levels)
    (hr : r.ReturnsForm levels) (hname : f.name ∉ r.names) : (Record.cons f r).ReturnsForm levels := by
  intro entries p hshort h
  obtain ⟨a, ha, h⟩ := Option.bind_eq_some_iff.1 h
  obtain ⟨b, hb, rfl⟩ := Option.map_eq_some_iff.1 h
  refine Regains.cons ?_ (hr entries b hshort hb) hname
  unfold look at ha
  split at ha
  · rename_i key node hfind
    have hmem := List.mem_of_find?_eq_some hfind
    exact hf.read node a ((Node.breadth_le_of_mem hmem).trans_lt hshort) ha
  · exact hf.missing a ha

theorem Regains.map {r : Record α} {make : α → β} {parts : β → α} {a : α} (hr : r.Regains levels a)
    (h : parts (make a) = a) : (r.map make parts).Regains levels (make a) := by
  show Returns _ _ _ (r.toForm (parts (make a))) (make a)
  rw [h]
  exact Returns.map hr make

theorem ReturnsForm.map {r : Record α} (hr : r.ReturnsForm levels) {make : α → β} {parts : β → α}
    (h : ∀ a, parts (make a) = a) : (r.map make parts).ReturnsForm levels := by
  intro entries b hshort hb
  obtain ⟨a, ha, rfl⟩ := Option.map_eq_some_iff.1 hb
  exact Regains.map (hr entries a hshort ha) (h a)

/-- The names of a record can stand in brackets, and none of them stands twice. -/
def HasNames (r : Record α) : Prop := r.names.Nodup ∧ ∀ name ∈ r.names, Form.IsName name

/-- What was written is read as a value of the record. -/
theorem Returns.ofEntries?_eq {r : Record α} {entries : List (String × Node)} {a : α}
    (h : Returns r.names (Node.IsWritten levels) r.ofFields? entries a) (hn : r.names.Nodup) :
    r.ofEntries? entries = some a := by
  have hother : entries.filter (fun e => !r.names.contains e.1) = [] := by
    refine List.filter_eq_nil_iff.2 fun e he => ?_
    have hmem : e.1 ∈ r.names := h.sublist.subset (List.mem_map_of_mem he)
    simp [hmem]
  rw [ofEntries?, h.isUnambiguous hn, hother, Node.areSound, h.read_written]
  rfl

/-- A value that was read as a record was read from some fields, with short lists if the node has such. -/
theorem exists_ofFields? {r : Record α} {node : Node} {a : α} (h : r.layout.ofForm? node = some a) :
    ∃ entries, Node.widest entries ≤ node.breadth ∧ r.ofFields? entries = some a := by
  have hentries {entries : List (String × Node)} (h : r.ofEntries? entries = some a) :
      r.ofFields? entries = some a := by
    unfold ofEntries? at h
    split_ifs at h
    exact h
  cases node with
  | fields es =>
    refine ⟨es, ?_, hentries h⟩
    rw [Node.breadth, Node.fieldBreadth_eq_widest]
  | positions es =>
    refine ⟨_, ?_, hentries h⟩
    rw [Node.breadth, Node.positionBreadth_eq_widest]
    have hmap := Node.widest_map (fun index => String.ofList (Decimal.digits index)) es
    exact hmap.trans_le (Nat.le_max_right _ _)
  | _ => cases h

/-- The fields of a record are written. -/
theorem Regains.fieldsAreWritten {r : Record α} {a : α} (ha : r.Regains levels a) (hn : r.HasNames) :
    Form.FieldsAreWritten levels (r.toForm a) ∧ ((r.toForm a).map (·.1)).Nodup ∧
      r.ofEntries? (r.toForm a) = some a := by
  refine ⟨?_, hn.1.sublist ha.sublist, ha.ofEntries?_eq hn.1⟩
  refine Form.fieldsAreWritten_of_forall fun e he => ⟨?_, ha.entry e he⟩
  exact hn.2 _ (ha.sublist.subset (List.mem_map_of_mem he))

/-- A record that writes a field is a layout of its own, one level higher. -/
theorem Regains.layout {r : Record α} {a : α} (ha : r.Regains levels a) (hn : r.HasNames)
    (hne : r.toForm a ≠ []) : r.layout.Regains (levels + 1) a := by
  obtain ⟨hwritten, hnodup, hread⟩ := ha.fieldsAreWritten hn
  exact ⟨⟨Nat.succ_pos _, hne, hnodup, hwritten⟩, hread⟩

theorem ReturnsForm.layout {r : Record α} (hr : r.ReturnsForm levels) (hn : r.HasNames)
    (hne : ∀ a, r.toForm a ≠ []) : r.layout.ReturnsForm (levels + 1) := by
  intro node a hshort h
  obtain ⟨entries, hentries, ha⟩ := exists_ofFields? h
  exact Regains.layout (hr entries a (hentries.trans_lt hshort) ha) hn (hne a)

/-- A body decodes to the value that was encoded. -/
theorem Regains.decode?_encode? {r : Record α} {a : α} (ha : r.Regains (Form.firstLevels - 1) a)
    (hn : r.HasNames) : ∃ bytes, r.form.encode? a = some bytes ∧ r.form.decode? bytes = some a := by
  obtain ⟨hwritten, hnodup, hread⟩ := ha.fieldsAreWritten hn
  refine ⟨_, rfl, ?_⟩
  show (Form.parse? (Form.render (.fields (r.toForm a)))).bind r.layout.ofForm? = some a
  rw [Form.parse?_render hwritten hnodup, Option.bind_some]
  exact hread

/-- What a body that fits into memory decodes to is encoded and decoded again. -/
theorem ReturnsForm.decode?_encode? {r : Record α} (hr : r.ReturnsForm (Form.firstLevels - 1))
    (hn : r.HasNames) {bytes : Bytes} {a : α} (hbytes : FitsMemory bytes)
    (h : r.form.decode? bytes = some a) :
    ∃ written, r.form.encode? a = some written ∧ r.form.decode? written = some a := by
  obtain ⟨node, hnode, hread⟩ := Option.bind_eq_some_iff.1 h
  have hshort : node.IsShort := by
    have hle := Form.breadth_parse? hnode
    have hlength : bytes.length ≤ 0x7FFFFFFFFFFFFFFF := hbytes
    show node.breadth < 18446744073709551616
    omega
  obtain ⟨entries, hentries, ha⟩ := exists_ofFields? hread
  exact Regains.decode?_encode? (hr entries a (hentries.trans_lt hshort) ha) hn

end Record

end Signpost

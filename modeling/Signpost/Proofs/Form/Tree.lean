import Mathlib.Tactic.Common
import Signpost.Form.Node

/-!
# Trees and their leaves

A form tree is written leaf by leaf, each with the parts that lead to it.

* `Node.leaves`: the texts of a tree with their parts. `Node.addAll` puts texts at their places.
* `Node.IsWritten`: trees of some levels that can be written: every name and every index stands once, and
  every list of entries has one.
* `addAll_leaves`: the leaves of a written tree, added in order, make that tree again.
* `forall_leaves`: the parts of a leaf are at most as many as the levels of the tree, and written.
-/

namespace Signpost.Form

/-! ## Leaves -/

/-- A leaf one level further down. -/
def below (part : Part) (leaf : List Part × String) : List Part × String := (part :: leaf.1, leaf.2)

mutual

/-- The texts of a tree, each with the parts that lead to it. -/
def Node.leaves : Node → List (List Part × String)
  | .flat text => [([], text)]
  | .fields es => fieldLeaves es
  | .positions es => positionLeaves es
  | .items texts => texts.map fun text => ([.append], text)
  | .invalid => []

def fieldLeaves : List (String × Node) → List (List Part × String)
  | [] => []
  | (name, node) :: es => node.leaves.map (below (.name name)) ++ fieldLeaves es

def positionLeaves : List (Nat × Node) → List (List Part × String)
  | [] => []
  | (index, node) :: es => node.leaves.map (below (.position index)) ++ positionLeaves es

end

/-- A name that can stand in brackets: it is not empty and does not begin like a number. -/
def IsName (name : String) : Prop := ∃ c cs, name.toList = c :: cs ∧ c.isDigit = false

mutual

/-- The tree has at most this many levels of entries, each with distinct keys and none without an entry. -/
def Node.IsWritten (levels : Nat) : Node → Prop
  | .flat _ => True
  | .fields es =>
    0 < levels ∧ es ≠ [] ∧ (es.map (·.1)).Nodup ∧ FieldsAreWritten (levels - 1) es
  | .positions es =>
    0 < levels ∧ es ≠ [] ∧ (es.map (·.1)).Nodup ∧ PositionsAreWritten (levels - 1) es
  | .items _ => False
  | .invalid => False

def FieldsAreWritten (levels : Nat) : List (String × Node) → Prop
  | [] => True
  | (name, node) :: es => IsName name ∧ node.IsWritten levels ∧ FieldsAreWritten levels es

def PositionsAreWritten (levels : Nat) : List (Nat × Node) → Prop
  | [] => True
  | (index, node) :: es => index < UInt64.size ∧ node.IsWritten levels ∧ PositionsAreWritten levels es

end

/-- A part that can be written. -/
def Part.IsWritten : Part → Prop
  | .name key => IsName key
  | .position index => index < UInt64.size
  | .append => False

theorem fieldsAreWritten_of_forall {levels : Nat} {es : List (String × Node)}
    (h : ∀ e ∈ es, IsName e.1 ∧ e.2.IsWritten levels) : FieldsAreWritten levels es := by
  induction es with
  | nil => trivial
  | cons e es ih =>
    obtain ⟨hname, hnode⟩ := h e (by simp)
    exact ⟨hname, hnode, ih fun e he => h e (List.mem_cons_of_mem _ he)⟩

theorem positionsAreWritten_of_forall {levels : Nat} {es : List (Nat × Node)}
    (h : ∀ e ∈ es, e.1 < UInt64.size ∧ e.2.IsWritten levels) : PositionsAreWritten levels es := by
  induction es with
  | nil => trivial
  | cons e es ih =>
    obtain ⟨hindex, hnode⟩ := h e (by simp)
    exact ⟨hindex, hnode, ih fun e he => h e (List.mem_cons_of_mem _ he)⟩

/-- The parts of the leaf are within some levels, and they can be written. -/
def LiesWithin (levels : Nat) (leaf : List Part × String) : Prop :=
  leaf.1.length ≤ levels ∧ ∀ part ∈ leaf.1, part.IsWritten

theorem LiesWithin.below {levels : Nat} {leaf : List Part × String} (h : LiesWithin (levels - 1) leaf)
    (hpos : 0 < levels) {part : Part} (hpart : part.IsWritten) : LiesWithin levels (below part leaf) := by
  refine ⟨?_, List.forall_mem_cons.2 ⟨hpart, h.2⟩⟩
  have hlength := h.1
  rw [Form.below, List.length_cons]
  omega

mutual

/-- The leaves of a written tree lie within its levels, and their parts can be written. -/
theorem forall_leaves : ∀ (node : Node) (levels : Nat), node.IsWritten levels →
    ∀ leaf ∈ node.leaves, LiesWithin levels leaf
  | .flat text, levels, _, leaf, hleaf => by
    rw [List.mem_singleton.1 hleaf]
    exact ⟨Nat.zero_le _, nofun⟩
  | .fields es, levels, h, leaf, hleaf => forall_fieldLeaves es levels h.1 h.2.2.2 leaf hleaf
  | .positions es, levels, h, leaf, hleaf => forall_positionLeaves es levels h.1 h.2.2.2 leaf hleaf
  | .items _, _, h, _, _ => h.elim
  | .invalid, _, h, _, _ => h.elim

theorem forall_fieldLeaves : ∀ (es : List (String × Node)) (levels : Nat), 0 < levels →
    FieldsAreWritten (levels - 1) es →
    ∀ leaf ∈ fieldLeaves es, LiesWithin levels leaf
  | [], _, _, _, _, hleaf => nomatch hleaf
  | (name, node) :: es, levels, hpos, ⟨hname, hnode, hes⟩, leaf, hleaf => by
    rcases List.mem_append.1 hleaf with hleaf | hleaf
    · obtain ⟨inner, hinner, rfl⟩ := List.mem_map.1 hleaf
      exact (forall_leaves node _ hnode inner hinner).below hpos hname
    · exact forall_fieldLeaves es levels hpos hes leaf hleaf

theorem forall_positionLeaves : ∀ (es : List (Nat × Node)) (levels : Nat), 0 < levels →
    PositionsAreWritten (levels - 1) es →
    ∀ leaf ∈ positionLeaves es, LiesWithin levels leaf
  | [], _, _, _, _, hleaf => nomatch hleaf
  | (index, node) :: es, levels, hpos, ⟨hindex, hnode, hes⟩, leaf, hleaf => by
    rcases List.mem_append.1 hleaf with hleaf | hleaf
    · obtain ⟨inner, hinner, rfl⟩ := List.mem_map.1 hleaf
      exact (forall_leaves node _ hnode inner hinner).below hpos hindex
    · exact forall_positionLeaves es levels hpos hes leaf hleaf

end

namespace Node

/-- A written tree has a leaf. -/
theorem leaves_ne_nil : ∀ (node : Node) (levels : Nat), node.IsWritten levels → node.leaves ≠ []
  | .flat _, _, _ => List.cons_ne_nil _ _
  | .fields ((name, node) :: _), levels, h => by
    have hnode := leaves_ne_nil node _ h.2.2.2.2.1
    rw [leaves, fieldLeaves]
    simp [hnode]
  | .positions ((index, node) :: _), levels, h => by
    have hnode := leaves_ne_nil node _ h.2.2.2.2.1
    rw [leaves, positionLeaves]
    simp [hnode]
  | .fields [], _, h => absurd rfl h.2.1
  | .positions [], _, h => absurd rfl h.2.1
  | .items _, _, h => h.elim
  | .invalid, _, h => h.elim

/-! ## Adding leaves -/

/-- Puts texts at their places, one after another. -/
def addAll : List (List Part × String) → Option Node → Option (Option Node)
  | [], node => some node
  | (parts, text) :: leaves, node => (add text parts node).bind fun node => addAll leaves (some node)

theorem addAll_append (leaves more : List (List Part × String)) (node : Option Node) :
    addAll (leaves ++ more) node = (addAll leaves node).bind (addAll more) := by
  induction leaves generalizing node with
  | nil => rfl
  | cons leaf leaves ih =>
    rw [List.cons_append, addAll, addAll, Option.bind_assoc]
    exact Option.bind_congr fun node _ => ih (some node)

/-- How a kind of node lists its entries: a text goes to the entry of its key, also if it is the first. -/
structure Lists {κ : Type} [DecidableEq κ] (part : κ → Part) (wrap : List (κ × Node) → Node) : Prop where
  add_some : ∀ key text parts es,
    add text (part key :: parts) (some (wrap es)) = (update key (add text parts) es).map wrap
  add_none : ∀ key text parts,
    add text (part key :: parts) none = (update key (add text parts) []).map wrap

theorem lists_fields : Lists Part.name fields := ⟨fun _ _ _ _ => rfl, fun _ _ _ => rfl⟩

theorem lists_positions : Lists Part.position positions := ⟨fun _ _ _ _ => rfl, fun _ _ _ => rfl⟩

section Lists

variable {κ : Type} [DecidableEq κ] {key : κ} {es : List (κ × Node)} {part : κ → Part}
  {wrap : List (κ × Node) → Node}

/-- The entry of a key at the end is changed, or added there. -/
theorem update_append (hkey : key ∉ es.map (·.1)) (change : Option Node → Option Node)
    (node : Option Node) :
    update key change (es ++ (node.map fun node => (key, node)).toList) =
      (change node).map fun node => es ++ [(key, node)] := by
  induction es with
  | nil =>
    rcases node with _ | node
    · rfl
    · show update key change [(key, node)] = _
      rw [update, if_pos rfl]
      rfl
  | cons e es ih =>
    have hne : e.1 ≠ key := fun heq => hkey (by simp [heq])
    have hrest : key ∉ es.map (·.1) := fun hmem => hkey (List.mem_cons_of_mem _ hmem)
    rw [List.cons_append, update, if_neg hne, ih hrest, Option.map_map]
    rfl

/-- Texts below one key fill the entry of that key. -/
theorem Lists.addAll_below (h : Lists part wrap) (hkey : key ∉ es.map (·.1))
    (leaves : List (List Part × String)) (node : Option Node) :
    addAll (leaves.map (below (part key)))
        (some (wrap (es ++ (node.map fun node => (key, node)).toList))) =
      (addAll leaves node).map fun node =>
        some (wrap (es ++ (node.map fun node => (key, node)).toList)) := by
  induction leaves generalizing node with
  | nil => rfl
  | cons leaf leaves ih =>
    rw [List.map_cons, below, addAll, addAll, h.add_some, update_append hkey, Option.map_map,
      Option.map_bind, Option.bind_map]
    exact Option.bind_congr fun node _ => ih (some node)

/-- The leaves of an entry put that entry behind the others. -/
theorem Lists.addAll_entry (h : Lists part wrap) (hkey : key ∉ es.map (·.1)) {node : Node}
    (hnode : addAll node.leaves none = some (some node)) :
    addAll (node.leaves.map (below (part key))) (some (wrap es)) =
      some (some (wrap (es ++ [(key, node)]))) := by
  have hbelow := h.addAll_below hkey node.leaves none
  rw [hnode] at hbelow
  simpa using hbelow

/-- The first text that goes to an entry makes the list. -/
theorem Lists.addAll_first (h : Lists part wrap) {leaves : List (List Part × String)}
    (hne : leaves ≠ []) :
    addAll (leaves.map (below (part key))) none =
      addAll (leaves.map (below (part key))) (some (wrap [])) := by
  cases leaves with
  | nil => exact absurd rfl hne
  | cons leaf leaves => rw [List.map_cons, below, addAll, addAll, h.add_none, h.add_some]

end Lists

theorem notMem_keys_of_nodup {κ : Type} {key : κ} {node : Node} {done es : List (κ × Node)}
    (h : ((done ++ (key, node) :: es).map (·.1)).Nodup) : key ∉ done.map (·.1) := by
  rw [List.map_append, List.nodup_append] at h
  intro hmem
  exact h.2.2 key hmem key (by simp) rfl

mutual

/-- The leaves of a written tree, added in order, make that tree. -/
theorem addAll_leaves : ∀ (node : Node) (levels : Nat), node.IsWritten levels →
    addAll node.leaves none = some (some node)
  | .flat _, _, _ => rfl
  | .fields ((name, node) :: es), levels, h => by
    obtain ⟨_, _, hnodup, hname, hnode, hes⟩ := h
    have hfirst := addAll_leaves node _ hnode
    have hrest := addAll_fieldLeaves es _ hes [(name, node)] hnodup
    rw [leaves, fieldLeaves, addAll_append, lists_fields.addAll_first (leaves_ne_nil node _ hnode),
      lists_fields.addAll_entry (by simp) hfirst]
    exact hrest
  | .positions ((index, node) :: es), levels, h => by
    obtain ⟨_, _, hnodup, hindex, hnode, hes⟩ := h
    have hfirst := addAll_leaves node _ hnode
    have hrest := addAll_positionLeaves es _ hes [(index, node)] hnodup
    rw [leaves, positionLeaves, addAll_append,
      lists_positions.addAll_first (leaves_ne_nil node _ hnode),
      lists_positions.addAll_entry (by simp) hfirst]
    exact hrest
  | .fields [], _, h => absurd rfl h.2.1
  | .positions [], _, h => absurd rfl h.2.1
  | .items _, _, h => h.elim
  | .invalid, _, h => h.elim

theorem addAll_fieldLeaves : ∀ (es : List (String × Node)) (levels : Nat),
    FieldsAreWritten levels es → ∀ done, ((done ++ es).map (·.1)).Nodup →
    addAll (fieldLeaves es) (some (fields done)) = some (some (fields (done ++ es)))
  | [], _, _, done, _ => by rw [List.append_nil]; rfl
  | (name, node) :: es, levels, ⟨_, hnode, hes⟩, done, hnodup => by
    have hrest := addAll_fieldLeaves es levels hes (done ++ [(name, node)]) (by simpa using hnodup)
    rw [fieldLeaves, addAll_append,
      lists_fields.addAll_entry (notMem_keys_of_nodup hnodup) (addAll_leaves node _ hnode)]
    rw [List.append_assoc] at hrest
    exact hrest

theorem addAll_positionLeaves : ∀ (es : List (Nat × Node)) (levels : Nat),
    PositionsAreWritten levels es → ∀ done, ((done ++ es).map (·.1)).Nodup →
    addAll (positionLeaves es) (some (positions done)) = some (some (positions (done ++ es)))
  | [], _, _, done, _ => by rw [List.append_nil]; rfl
  | (index, node) :: es, levels, ⟨_, hnode, hes⟩, done, hnodup => by
    have hrest := addAll_positionLeaves es levels hes (done ++ [(index, node)]) (by simpa using hnodup)
    rw [positionLeaves, addAll_append,
      lists_positions.addAll_entry (notMem_keys_of_nodup hnodup) (addAll_leaves node _ hnode)]
    rw [List.append_assoc] at hrest
    exact hrest

end

end Node

end Signpost.Form

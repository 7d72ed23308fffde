import Mathlib.Tactic.Common
import Signpost.Form.Reader

/-!
# The size of lists in a form

A form with few pairs has short lists.

* `Node.breadth`: the number of entries of the longest list in a tree.
* `breadth_add`: one more text makes a list longer by at most one entry.
* `breadth_parse?`: no list of a form has more entries than the body has bytes, but for one.
-/

namespace Signpost.Form

namespace Node

mutual

/-- The number of entries of the longest list of positions or items in the tree. -/
def breadth : Node → Nat
  | .flat _ => 0
  | .fields es => fieldBreadth es
  | .positions es => max es.length (positionBreadth es)
  | .items texts => texts.length
  | .invalid => 0

def fieldBreadth : List (String × Node) → Nat
  | [] => 0
  | (_, node) :: es => max node.breadth (fieldBreadth es)

def positionBreadth : List (Nat × Node) → Nat
  | [] => 0
  | (_, node) :: es => max node.breadth (positionBreadth es)

end

/-- The breadth of what may stand at a place. -/
def breadth? (node : Option Node) : Nat := node.elim 0 breadth

section Widest

variable {κ : Type}

/-- The breadth of the broadest entry. -/
def widest : List (κ × Node) → Nat
  | [] => 0
  | e :: es => max e.2.breadth (widest es)

theorem fieldBreadth_eq_widest (es : List (String × Node)) : fieldBreadth es = widest es := by
  induction es with
  | nil => rfl
  | cons e es ih => rw [fieldBreadth, widest, ih]

theorem positionBreadth_eq_widest (es : List (Nat × Node)) : positionBreadth es = widest es := by
  induction es with
  | nil => rfl
  | cons e es ih => rw [positionBreadth, widest, ih]

theorem breadth_le_of_mem {es : List (κ × Node)} {e : κ × Node} (h : e ∈ es) :
    e.2.breadth ≤ widest es := by
  induction es with
  | nil => cases h
  | cons other es ih =>
    rw [widest]
    rcases List.mem_cons.1 h with rfl | h
    · omega
    · have := ih h
      omega

/-- Positions that are read as fields have the same lists below them. -/
theorem widest_map (name : Nat → String) (es : List (Nat × Node)) :
    widest (es.map fun (index, node) => (name index, node)) = widest es := by
  induction es with
  | nil => rfl
  | cons e es ih => rw [List.map_cons, widest, widest, ih]

/-! ## Adding a text -/

variable [DecidableEq κ] {key : κ} {change : Option Node → Option Node}

/-- Changing an entry adds at most one entry. -/
theorem length_update {es es' : List (κ × Node)} (h : update key change es = some es') :
    es'.length ≤ es.length + 1 := by
  induction es generalizing es' with
  | nil =>
    obtain ⟨node, -, rfl⟩ := Option.map_eq_some_iff.1 h
    exact Nat.le_refl _
  | cons e es ih =>
    rw [update] at h
    split_ifs at h with hkey
    · obtain ⟨node, -, rfl⟩ := Option.map_eq_some_iff.1 h
      exact Nat.le_succ _
    · obtain ⟨rest, hrest, rfl⟩ := Option.map_eq_some_iff.1 h
      exact Nat.succ_le_succ (ih hrest)

/-- A change that makes the lists of an entry longer by at most one does so for all entries. -/
theorem widest_update
    (hchange : ∀ node node', change node = some node' → node'.breadth ≤ breadth? node + 1)
    {es es' : List (κ × Node)} (h : update key change es = some es') :
    widest es' ≤ widest es + 1 := by
  induction es generalizing es' with
  | nil =>
    obtain ⟨node, hnode, rfl⟩ := Option.map_eq_some_iff.1 h
    have hle : node.breadth ≤ 1 := hchange none node hnode
    simp only [widest]
    omega
  | cons e es ih =>
    obtain ⟨k, node⟩ := e
    rw [update] at h
    split_ifs at h with hkey
    · obtain ⟨node', hnode, rfl⟩ := Option.map_eq_some_iff.1 h
      have hle : node'.breadth ≤ node.breadth + 1 := hchange (some node) node' hnode
      simp only [widest]
      omega
    · obtain ⟨rest, hrest, rfl⟩ := Option.map_eq_some_iff.1 h
      have hle := ih hrest
      simp only [widest]
      omega

end Widest

/-- One more text makes the longest list longer by at most one entry. -/
theorem breadth_add {text : String} {parts : List Part} {node : Option Node} {node' : Node}
    (h : add text parts node = some node') : node'.breadth ≤ breadth? node + 1 := by
  induction parts generalizing node node' with
  | nil =>
    cases node <;> cases h <;> exact Nat.zero_le _
  | cons part parts ih =>
    have hchange : ∀ node node', add text parts node = some node' →
        node'.breadth ≤ breadth? node + 1 := fun _ _ => ih
    rw [add.eq_def] at h
    dsimp only at h
    split at h
    · obtain ⟨es, hes, rfl⟩ := Option.map_eq_some_iff.1 h
      rw [breadth, fieldBreadth_eq_widest]
      exact widest_update hchange hes
    · rename_i old
      obtain ⟨es, hes, rfl⟩ := Option.map_eq_some_iff.1 h
      show fieldBreadth es ≤ fieldBreadth old + 1
      rw [fieldBreadth_eq_widest, fieldBreadth_eq_widest]
      exact widest_update hchange hes
    · obtain ⟨es, hes, rfl⟩ := Option.map_eq_some_iff.1 h
      have hlength : es.length ≤ 1 := length_update hes
      have hbelow : widest es ≤ 1 := widest_update hchange hes
      rw [breadth, positionBreadth_eq_widest]
      exact Nat.max_le.2 ⟨hlength, hbelow⟩
    · rename_i old
      obtain ⟨es, hes, rfl⟩ := Option.map_eq_some_iff.1 h
      have hlength := length_update hes
      have hbelow := widest_update hchange hes
      show max es.length (positionBreadth es) ≤ max old.length (positionBreadth old) + 1
      rw [positionBreadth_eq_widest, positionBreadth_eq_widest]
      omega
    · split_ifs at h
      cases h
      exact Nat.le_refl _
    · split_ifs at h
      cases h
      rw [breadth, List.length_append]
      exact Nat.le_refl _
    · split_ifs at h
      cases h
      exact Nat.zero_le _

end Node

/-! ## Bodies -/

/-- Each pair of a body makes the longest list longer by at most one entry. -/
theorem breadth_addPairs? {pieces : List Bytes} {levels : Nat} {root node : Node}
    (h : addPairs? levels root pieces = some node) : node.breadth ≤ root.breadth + pieces.length := by
  induction pieces generalizing levels root with
  | nil =>
    cases h
    exact Nat.le_refl _
  | cons piece pieces ih =>
    rw [List.length_cons]
    rcases piece with _ | ⟨first, rest⟩
    · have hle := ih h
      omega
    · rw [addPairs?] at h
      split at h
      · split at h
        · rename_i next hnext
          have hle := ih h
          have hadd : next.breadth ≤ root.breadth + 1 := Node.breadth_add hnext
          omega
        · cases h
      · cases h

theorem length_pieces_le {α : Type} (sep : α → Bool) (xs : List α) :
    (pieces sep xs).length ≤ xs.length + 1 := by
  induction xs with
  | nil => exact Nat.le_refl _
  | cons x xs ih =>
    rw [pieces]
    split_ifs
    · exact Nat.succ_le_succ ih
    · have hcons : (consFirst x (pieces sep xs)).length = (pieces sep xs).length := by
        obtain ⟨piece, rest, hp⟩ := List.exists_cons_of_ne_nil (pieces_ne_nil sep xs)
        rw [hp]
        rfl
      rw [hcons, List.length_cons]
      omega

/-- No list of a form has more entries than the body has bytes, but for one. -/
theorem breadth_parse? {body : Bytes} {node : Node} (h : parse? body = some node) :
    node.breadth ≤ body.length + 1 := by
  have hle := breadth_addPairs? h
  have hpieces := length_pieces_le (· = ampersand) body
  have hroot : (Node.fields []).breadth = 0 := rfl
  omega

end Signpost.Form

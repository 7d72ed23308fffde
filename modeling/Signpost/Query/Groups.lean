/-!
# Grouped query fields

The fields of a query, grouped by key. Keys stand in the order in which they were first added, and
the values of a key in the order in which they were added.

* `Query.WellFormed`: keys are distinct and every key has a value. `push`, `erase` and `merge` keep it.
* `find?_push`, `find?_erase`: the values of a key after a push and after a removal.
-/

namespace Signpost

/-- Query fields: each key with its values. -/
structure Query where
  groups : List (String × List String) := []
deriving DecidableEq

namespace Query

/-- The query without fields. -/
def empty : Query := {}

/-- The keys in order. -/
def keys (q : Query) : List String := q.groups.map (·.1)

/-- The values of a key. -/
def find? (q : Query) (key : String) : Option (List String) :=
  (q.groups.find? (·.1 = key)).map (·.2)

/-- The first value of a key. -/
def first? (q : Query) (key : String) : Option String :=
  match q.find? key with
  | some (value :: _) => some value
  | _ => none

/-- Groups with one more value for a key: behind its other values, or in a new group at the end. -/
def pushGroup (key value : String) : List (String × List String) → List (String × List String)
  | [] => [(key, [value])]
  | g :: gs => if g.1 = key then (g.1, g.2 ++ [value]) :: gs else g :: pushGroup key value gs

/-- Adds one value for a key. -/
def push (q : Query) (key value : String) : Query := ⟨pushGroup key value q.groups⟩

/-- Removes the first group of a key. -/
def erase (q : Query) (key : String) : Query := ⟨q.groups.eraseP (·.1 = key)⟩

/-- The pairs of key and value, the values of a key together. -/
def pairs (q : Query) : List (String × String) :=
  q.groups.flatMap fun (key, values) => values.map fun value => (key, value)

/-- Adds some pairs in order. -/
def pushAll (q : Query) (ps : List (String × String)) : Query :=
  ps.foldl (fun q (key, value) => q.push key value) q

/-- The query of some pairs. -/
def ofPairs (ps : List (String × String)) : Query := empty.pushAll ps

/-- Adds the pairs of another query in order. -/
def merge (q r : Query) : Query := q.pushAll r.pairs

/-- No key stands twice, and every key has a value. -/
def WellFormed (q : Query) : Prop := q.keys.Nodup ∧ ∀ g ∈ q.groups, g.2 ≠ []

theorem wellFormed_empty : empty.WellFormed := by simp [WellFormed, empty, keys]

/-! ## Adding -/

theorem keys_pushGroup (key value : String) (gs : List (String × List String)) :
    (pushGroup key value gs).map (·.1) =
      if key ∈ gs.map (·.1) then gs.map (·.1) else gs.map (·.1) ++ [key] := by
  induction gs with
  | nil => simp [pushGroup]
  | cons g gs ih =>
    by_cases h : g.1 = key
    · simp [pushGroup, h]
    · have h' : ¬ key = g.1 := fun e => h e.symm
      by_cases hm : key ∈ gs.map (·.1)
      · simp_all [pushGroup]
      · simp_all [pushGroup]

/-- A new key stands behind the others, a known one keeps its place. -/
theorem keys_push (q : Query) (key value : String) :
    (q.push key value).keys = if key ∈ q.keys then q.keys else q.keys ++ [key] :=
  keys_pushGroup key value q.groups

theorem ne_nil_of_mem_pushGroup {key value : String} {gs : List (String × List String)}
    (h : ∀ g ∈ gs, g.2 ≠ []) : ∀ g ∈ pushGroup key value gs, g.2 ≠ [] := by
  induction gs with
  | nil => simp [pushGroup]
  | cons x gs ih =>
    have hx := h x (by simp)
    have hgs := ih fun g hg => h g (by simp [hg])
    intro g hg
    by_cases hk : x.1 = key
    · rw [pushGroup, if_pos hk] at hg
      rcases List.mem_cons.1 hg with rfl | hg
      · simp
      · exact h g (by simp [hg])
    · rw [pushGroup, if_neg hk] at hg
      rcases List.mem_cons.1 hg with rfl | hg
      · exact hx
      · exact hgs g hg

theorem WellFormed.push {q : Query} (h : q.WellFormed) (key value : String) :
    (q.push key value).WellFormed := by
  refine ⟨?_, ne_nil_of_mem_pushGroup h.2⟩
  rw [keys_push]
  split
  · exact h.1
  · rename_i hk
    rw [List.nodup_append]
    refine ⟨h.1, by simp, ?_⟩
    rintro a ha b hb rfl
    exact hk (by rw [← List.mem_singleton.1 hb]; exact ha)

theorem WellFormed.pushAll {q : Query} (h : q.WellFormed) (ps : List (String × String)) :
    (q.pushAll ps).WellFormed := by
  induction ps generalizing q with
  | nil => exact h
  | cons p ps ih => exact ih (h.push p.1 p.2)

theorem WellFormed.merge {q : Query} (h : q.WellFormed) (r : Query) : (q.merge r).WellFormed :=
  h.pushAll r.pairs

theorem wellFormed_ofPairs (ps : List (String × String)) : (ofPairs ps).WellFormed :=
  wellFormed_empty.pushAll ps

theorem find?_pushGroup (key value other : String) (gs : List (String × List String)) :
    ((pushGroup key value gs).find? (·.1 = other)).map (·.2) =
      if other = key then some (((gs.find? (·.1 = key)).map (·.2)).getD [] ++ [value])
      else (gs.find? (·.1 = other)).map (·.2) := by
  induction gs with
  | nil =>
    by_cases h : other = key
    · simp [pushGroup, h]
    · have h' : ¬ key = other := fun e => h e.symm
      simp [pushGroup, h, h']
  | cons g gs ih =>
    by_cases hk : g.1 = key
    · by_cases h : other = key
      · simp [pushGroup, hk, h]
      · have h' : ¬ key = other := fun e => h e.symm
        simp [pushGroup, hk, h, h']
    · by_cases h : g.1 = other
      · have h' : ¬ other = key := fun e => hk (h.trans e)
        simp [pushGroup, h, h']
      · simp [pushGroup, hk, h, ih]

/-- A push adds a value behind the others of its key and changes no other key. -/
theorem find?_push (q : Query) (key value other : String) :
    (q.push key value).find? other =
      if other = key then some ((q.find? key).getD [] ++ [value]) else q.find? other :=
  find?_pushGroup key value other q.groups

/-! ## Removing -/

theorem keys_erase (q : Query) (key : String) : (q.erase key).keys = q.keys.erase key := by
  obtain ⟨gs⟩ := q
  simp only [keys, erase]
  induction gs with
  | nil => rfl
  | cons g gs ih => by_cases h : g.1 = key <;> simp [h, ih]

theorem WellFormed.erase {q : Query} (h : q.WellFormed) (key : String) : (q.erase key).WellFormed := by
  refine ⟨?_, fun g hg => h.2 g (List.mem_of_mem_eraseP hg)⟩
  rw [keys_erase]
  exact h.1.erase key

/-- Removing a key leaves no value of it and changes no other key. -/
theorem find?_erase {q : Query} (h : q.WellFormed) (key other : String) :
    (q.erase key).find? other = if other = key then none else q.find? other := by
  obtain ⟨gs⟩ := q
  have hn : (gs.map (·.1)).Nodup := h.1
  clear h
  simp only [find?, Query.erase]
  induction gs with
  | nil => simp
  | cons g gs ih =>
    rw [List.map_cons, List.nodup_cons] at hn
    by_cases hk : g.1 = key
    · subst hk
      by_cases ho : other = g.1
      · subst ho
        have : ∀ x ∈ gs, ¬ x.1 = g.1 := fun x hx e => hn.1 (List.mem_map.2 ⟨x, hx, e⟩)
        simpa using fun a b hab => this (a, b) hab
      · have ho' : ¬ g.1 = other := fun e => ho e.symm
        simp [ho, ho']
    · by_cases ho : g.1 = other
      · have ho' : ¬ other = key := fun e => hk (ho.trans e)
        simp [ho, ho']
      · simpa [hk, ho] using ih hn.2

end Query

end Signpost

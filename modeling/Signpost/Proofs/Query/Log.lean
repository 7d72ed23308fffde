import Mathlib.Data.List.Induction
import Signpost.Proofs.Query.Merge

/-!
# Queries and logs of changes

A query groups its values by key and forgets when a value was added. Its specification is the log of all
additions and removals: what the query holds are the additions that no later removal of their key undoes.

* `Query.remaining`: the additions of a log that are left. `Query.valuesAdded` and `Query.keysAdded` are
  the values of a key and the keys among them.
* `applyAll_ofPairs_remaining`: one change of the query is one more entry in the log.
* `find?_ofPairs`, `keys_ofPairs`, `pairs_eq_flatMap`: what the query of some additions shows of them.
-/

namespace Signpost.Query

/-- One change of a query: a value is added for a key, or a key is removed with all of its values. -/
inductive Change where
  | add (key value : String)
  | remove (key : String)
deriving DecidableEq

/-! ## Specification -/

/-- The additions of a log that are left: those whose key is not removed later. -/
def remaining : List Change → List (String × String)
  | [] => []
  | .add key value :: later =>
    if .remove key ∈ later then remaining later else (key, value) :: remaining later
  | .remove _ :: later => remaining later

/-- The values added for a key since it was last removed, in order. -/
def valuesAdded (log : List Change) (key : String) : List String :=
  ((remaining log).filter (·.1 = key)).map (·.2)

/-- The keys that have values, in the order in which they were first added since their last removal. -/
def keysAdded (log : List Change) : List String := ((remaining log).map (·.1)).eraseDups

/-! ## Changes of a query -/

/-- The query after one change. -/
def apply (q : Query) : Change → Query
  | .add key value => q.push key value
  | .remove key => q.erase key

/-- The query after some changes. -/
def applyAll (q : Query) (changes : List Change) : Query := changes.foldl apply q

/-- The additions of some pairs. -/
def additions (ps : List (String × String)) : List Change := ps.map fun (key, value) => .add key value

theorem applyAll_additions (q : Query) (ps : List (String × String)) :
    q.applyAll (additions ps) = q.pushAll ps := by
  simp only [applyAll, additions, pushAll, List.foldl_map, apply]

theorem applyAll_append (q : Query) (changes more : List Change) :
    q.applyAll (changes ++ more) = (q.applyAll changes).applyAll more :=
  List.foldl_append

/-! ## What a log leaves -/

/-- An addition at the end is left. -/
theorem remaining_add (log : List Change) (key value : String) :
    remaining (log ++ [.add key value]) = remaining log ++ [(key, value)] := by
  induction log with
  | nil => rfl
  | cons change log ih =>
    cases change with
    | add k v =>
      have hmem : Change.remove k ∈ log ++ [.add key value] ↔ .remove k ∈ log := by simp
      simp only [List.cons_append, remaining, hmem, ih]
      split_ifs <;> rfl
    | remove k => exact ih

/-- A removal at the end undoes the additions of its key. -/
theorem remaining_remove (log : List Change) (key : String) :
    remaining (log ++ [.remove key]) = (remaining log).filter (·.1 ≠ key) := by
  induction log with
  | nil => rfl
  | cons change log ih =>
    cases change with
    | add k v =>
      have hmem : Change.remove k ∈ log ++ [.remove key] ↔ .remove k ∈ log ∨ k = key := by simp
      simp only [List.cons_append, remaining, hmem, ih]
      by_cases hlater : .remove k ∈ log
      · rw [if_pos (.inl hlater), if_pos hlater]
      · by_cases hk : k = key
        · rw [if_pos (.inr hk), if_neg hlater, List.filter_cons_of_neg (by simpa using hk)]
        · rw [if_neg (not_or.2 ⟨hlater, hk⟩), if_neg hlater,
            List.filter_cons_of_pos (by simpa using hk)]
    | remove k => exact ih

theorem remaining_additions (ps : List (String × String)) : remaining (additions ps) = ps := by
  induction ps with
  | nil => rfl
  | cons p ps ih =>
    have hkept : Change.remove p.1 ∉ additions ps := by simp [additions]
    show (if .remove p.1 ∈ additions ps then remaining (additions ps)
      else (p.1, p.2) :: remaining (additions ps)) = p :: ps
    rw [if_neg hkept, ih]

/-! ## Removals of queries made of pairs -/

theorem erase_push_self (q : Query) (key value : String) : (q.push key value).erase key = q.erase key := by
  obtain ⟨gs⟩ := q
  simp only [push, erase, mk.injEq]
  induction gs with
  | nil => simp [pushGroup]
  | cons g gs ih =>
    by_cases h : g.1 = key
    · simp [pushGroup, h]
    · simp [pushGroup, h, ih]

theorem erase_push_of_ne (q : Query) {key other : String} (value : String) (h : other ≠ key) :
    (q.push other value).erase key = (q.erase key).push other value := by
  obtain ⟨gs⟩ := q
  simp only [push, erase, mk.injEq]
  induction gs with
  | nil => simp [pushGroup, h]
  | cons g gs ih =>
    by_cases hk : g.1 = key
    · have ho : g.1 ≠ other := fun e => h (e.symm.trans hk)
      simp [pushGroup, hk, Ne.symm h]
    · by_cases ho : g.1 = other
      · simp [pushGroup, ho, h]
      · simp [pushGroup, hk, ho, ih]

theorem ofPairs_concat (ps : List (String × String)) (p : String × String) :
    ofPairs (ps ++ [p]) = (ofPairs ps).push p.1 p.2 :=
  pushAll_append empty ps [p]

/-- Removing a key is not having added its pairs. -/
theorem erase_ofPairs (ps : List (String × String)) (key : String) :
    (ofPairs ps).erase key = ofPairs (ps.filter (·.1 ≠ key)) := by
  induction ps using List.reverseRecOn with
  | nil => rfl
  | append_singleton ps p ih =>
    by_cases hp : p.1 = key
    · subst hp
      simp [ofPairs_concat, erase_push_self, ih]
    · simp [ofPairs_concat, erase_push_of_ne _ _ hp, hp, ih]

/-- A query that holds what a log leaves still does so after more changes, which the log continues with. -/
theorem applyAll_ofPairs_remaining (log changes : List Change) :
    (ofPairs (remaining log)).applyAll changes = ofPairs (remaining (log ++ changes)) := by
  induction changes generalizing log with
  | nil => rw [List.append_nil]; rfl
  | cons change changes ih =>
    have happly : (ofPairs (remaining log)).apply change = ofPairs (remaining (log ++ [change])) := by
      cases change with
      | add key value => rw [remaining_add, ofPairs_concat]; rfl
      | remove key => rw [remaining_remove, ← erase_ofPairs]; rfl
    calc (ofPairs (remaining log)).applyAll (change :: changes)
        = ((ofPairs (remaining log)).apply change).applyAll changes := rfl
      _ = ofPairs (remaining (log ++ [change] ++ changes)) := by rw [happly, ih]
      _ = ofPairs (remaining (log ++ change :: changes)) := by rw [List.append_assoc]; rfl

/-! ## What the query shows -/

theorem find?_ofPairs (ps : List (String × String)) (key : String) :
    (ofPairs ps).find? key =
      if (ps.filter (·.1 = key)).map (·.2) = [] then none
      else some ((ps.filter (·.1 = key)).map (·.2)) := by
  have hmem : key ∈ ps.map (·.1) ↔ (ps.filter (·.1 = key)).map (·.2) ≠ [] := by
    simp [List.filter_eq_nil_iff]
  rw [ofPairs, find?_pushAll]
  split_ifs with hkey hnil hnil
  · exact absurd hnil (hmem.1 hkey)
  · rfl
  · rfl
  · exact absurd (hmem.2 hnil) hkey

theorem keys_ofPairs (ps : List (String × String)) : (ofPairs ps).keys = (ps.map (·.1)).eraseDups := by
  induction ps using List.reverseRecOn with
  | nil => rfl
  | append_singleton ps p ih =>
    rw [ofPairs_concat, keys_push, ih, List.map_append, List.eraseDups_append]
    by_cases hp : p.1 ∈ ps.map (·.1)
    · simp [hp, List.mem_eraseDups, List.removeAll]
    · have hone : [p.1].eraseDups = [p.1] := rfl
      simp [hp, List.mem_eraseDups, List.removeAll, hone]

/-- The pairs of a query: its keys in order, each with its values. -/
theorem pairs_eq_flatMap {q : Query} (h : q.WellFormed) :
    q.pairs = q.keys.flatMap fun key => ((q.find? key).getD []).map fun value => (key, value) := by
  unfold pairs keys
  rw [List.flatMap_map]
  refine List.flatMap_congr fun g hg => ?_
  rw [(find?_eq_some_iff h).2 hg]
  rfl

/-- Every key has a value, so only the empty query has no pair. -/
theorem pairs_eq_nil_iff {q : Query} (h : q.WellFormed) : q.pairs = [] ↔ q.groups = [] := by
  constructor
  · intro hpairs
    refine List.eq_nil_iff_forall_not_mem.2 fun g hg => h.2 g hg ?_
    exact List.map_eq_nil_iff.1 (List.flatMap_eq_nil_iff.1 hpairs g hg)
  · intro hgroups
    rw [pairs, hgroups]
    rfl

end Signpost.Query

import Mathlib.Data.List.Nodup
import Mathlib.Tactic.Common
import Signpost.Query.Groups

/-!
# Adding queries to queries

`Query.merge` pushes the pairs of one query onto another. Pushes of different keys commute as soon as
the first key is there, so the order in which groups are filled does not matter.

* `merge_assoc`, `empty_merge`, `merge_empty`: well-formed queries are a monoid.
* `find?_eq_of_perm`: the order of the groups does not matter for the values of a key.
* `mem_keys_merge`: the keys are those of both.
* `find?_merge`: the values of a key are those of the first query, then those of the second.
-/

namespace Signpost

/-- Where no key stands twice, the entry that is found by a key is the one with that key. -/
theorem find?_key_eq_some_iff {α κ : Type} [DecidableEq κ] {key : α → κ} {entries : List α}
    (h : (entries.map key).Nodup) {k : κ} {entry : α} :
    entries.find? (key · = k) = some entry ↔ entry ∈ entries ∧ key entry = k := by
  constructor
  · intro hfind
    exact ⟨List.mem_of_find?_eq_some hfind, by simpa using List.find?_some hfind⟩
  · rintro ⟨hmem, rfl⟩
    have hsome : (entries.find? (key · = key entry)).isSome = true :=
      List.find?_isSome.2 ⟨entry, hmem, decide_eq_true rfl⟩
    obtain ⟨other, hother⟩ := Option.isSome_iff_exists.1 hsome
    have hkey : key other = key entry := by simpa using List.find?_some hother
    rw [hother, List.inj_on_of_nodup_map h (List.mem_of_find?_eq_some hother) hmem hkey]

namespace Query

/-! ## Keys and values -/

theorem find?_eq_none_iff (q : Query) (key : String) : q.find? key = none ↔ key ∉ q.keys := by
  unfold find? keys
  rw [Option.map_eq_none_iff, List.find?_eq_none]
  constructor
  · intro h hk
    obtain ⟨g, hg, he⟩ := List.mem_map.1 hk
    exact h g hg (by simpa using he)
  · intro h g hg he
    exact h (List.mem_map.2 ⟨g, hg, by simpa using he⟩)

/-- The values of a key are those of the group of that key. -/
theorem find?_eq_some_iff {q : Query} (h : q.WellFormed) {key : String} {values : List String} :
    q.find? key = some values ↔ (key, values) ∈ q.groups := by
  rw [find?, Option.map_eq_some_iff]
  constructor
  · rintro ⟨g, hg, rfl⟩
    obtain ⟨hmem, rfl⟩ := (find?_key_eq_some_iff h.1).1 hg
    exact hmem
  · intro hmem
    exact ⟨_, (find?_key_eq_some_iff h.1).2 ⟨hmem, rfl⟩, rfl⟩

/-- Some keys have the same values in two queries with the same groups of these keys, in any order. -/
theorem find?_eq_of_perm {q q' : Query} {keys : List String} (hq : q.WellFormed) (hq' : q'.WellFormed)
    (h : (q.groups.filter (·.1 ∈ keys)).Perm (q'.groups.filter (·.1 ∈ keys))) {key : String}
    (hkey : key ∈ keys) : q.find? key = q'.find? key := by
  refine Option.ext fun values => ?_
  rw [find?_eq_some_iff hq, find?_eq_some_iff hq']
  have hmem := h.mem_iff (a := (key, values))
  simpa only [List.mem_filter, decide_eq_true hkey, and_true] using hmem

/-- The keys of a well-formed query are those that have a first value. -/
theorem WellFormed.exists_first?_iff {q : Query} (h : q.WellFormed) {key : String} :
    (∃ value, q.first? key = some value) ↔ key ∈ q.keys := by
  rcases hfind : q.find? key with _ | values
  · have hfirst : q.first? key = none := by rw [first?, hfind]
    exact iff_of_false (by simp [hfirst]) ((find?_eq_none_iff q key).1 hfind)
  · have hkey : key ∈ q.keys := by
      by_contra hno
      rw [(find?_eq_none_iff q key).2 hno] at hfind
      cases hfind
    obtain ⟨value, more, rfl⟩ := List.exists_cons_of_ne_nil (h.2 _ ((find?_eq_some_iff h).1 hfind))
    refine iff_of_true ⟨value, ?_⟩ hkey
    rw [first?, hfind]

/-- Nothing is removed of a key that is not there. -/
theorem erase_of_notMem_keys {q : Query} {key : String} (h : key ∉ q.keys) : q.erase key = q := by
  refine congrArg mk (List.eraseP_of_forall_not fun group hgroup hkey => h ?_)
  exact List.mem_map.2 ⟨group, hgroup, of_decide_eq_true hkey⟩

theorem mem_keys_push (q : Query) (key value other : String) :
    other ∈ (q.push key value).keys ↔ other = key ∨ other ∈ q.keys := by
  rw [keys_push]
  split_ifs with h
  · constructor
    · exact Or.inr
    · rintro (rfl | ho)
      · exact h
      · exact ho
  · rw [List.mem_append, List.mem_singleton]
    exact or_comm

theorem pushAll_append (q : Query) (ps qs : List (String × String)) :
    q.pushAll (ps ++ qs) = (q.pushAll ps).pushAll qs := by
  unfold pushAll
  rw [List.foldl_append]

theorem mem_keys_pushAll (q : Query) (ps : List (String × String)) (key : String) :
    key ∈ (q.pushAll ps).keys ↔ key ∈ q.keys ∨ key ∈ ps.map (·.1) := by
  induction ps generalizing q with
  | nil => simp [pushAll]
  | cons p ps ih =>
    have hp : q.pushAll (p :: ps) = (q.push p.1 p.2).pushAll ps := rfl
    rw [hp, ih, mem_keys_push, List.map_cons, List.mem_cons]
    tauto

/-- The keys of the pairs are the keys of the query, since every key has a value. -/
theorem mem_map_pairs {q : Query} (h : q.WellFormed) (key : String) :
    key ∈ q.pairs.map (·.1) ↔ key ∈ q.keys := by
  unfold pairs keys
  simp only [List.mem_map, List.mem_flatMap]
  constructor
  · rintro ⟨p, ⟨g, hg, v, -, rfl⟩, rfl⟩
    exact ⟨g, hg, rfl⟩
  · rintro ⟨g, hg, rfl⟩
    obtain ⟨v, hv⟩ := List.exists_mem_of_ne_nil g.2 (h.2 g hg)
    exact ⟨(g.1, v), ⟨g, hg, v, hv, rfl⟩, rfl⟩

/-! ## Pushes in another order -/

/-- A push onto a key that is there commutes with a push onto another key. -/
theorem pushGroup_comm {key other : String} (value otherValue : String) (hne : other ≠ key)
    (gs : List (String × List String)) (hk : key ∈ gs.map (·.1)) :
    pushGroup other otherValue (pushGroup key value gs) =
      pushGroup key value (pushGroup other otherValue gs) := by
  induction gs with
  | nil => simp at hk
  | cons g gs ih =>
    rw [List.map_cons, List.mem_cons] at hk
    by_cases h : g.1 = key
    · have ho : g.1 ≠ other := fun e => hne (e.symm.trans h)
      simp [pushGroup, h, Ne.symm hne]
    · have hk' : key ∈ gs.map (·.1) := hk.resolve_left fun e => h e.symm
      by_cases ho : g.1 = other
      · simp [pushGroup, ho, hne]
      · simp [pushGroup, h, ho, ih hk']

theorem push_comm {q : Query} {key other : String} (value otherValue : String) (hne : other ≠ key)
    (hk : key ∈ q.keys) :
    (q.push key value).push other otherValue = (q.push other otherValue).push key value := by
  unfold push
  rw [pushGroup_comm value otherValue hne q.groups hk]

/-- A push onto a key that is there may wait until pairs of other keys are pushed. -/
theorem pushAll_push_comm {q : Query} {key : String} (value : String) {ps : List (String × String)}
    (hk : key ∈ q.keys) (hps : ∀ p ∈ ps, p.1 ≠ key) :
    (q.push key value).pushAll ps = (q.pushAll ps).push key value := by
  induction ps generalizing q with
  | nil => rfl
  | cons p ps ih =>
    have hp : p.1 ≠ key := hps p (by simp)
    have hk' : key ∈ (q.push p.1 p.2).keys := (mem_keys_push q p.1 p.2 key).2 (.inr hk)
    calc (q.push key value).pushAll (p :: ps)
        = ((q.push key value).push p.1 p.2).pushAll ps := rfl
      _ = ((q.push p.1 p.2).push key value).pushAll ps := by rw [push_comm value p.2 hp hk]
      _ = ((q.push p.1 p.2).pushAll ps).push key value :=
          ih hk' fun r hr => hps r (by simp [hr])
      _ = (q.pushAll (p :: ps)).push key value := rfl

/-! ## The monoid -/

/-- The pairs of some groups. -/
def groupPairs (gs : List (String × List String)) : List (String × String) := pairs ⟨gs⟩

theorem groupPairs_cons (g : String × List String) (gs : List (String × List String)) :
    groupPairs (g :: gs) = g.2.map (fun value => (g.1, value)) ++ groupPairs gs := by
  simp [groupPairs, pairs]

/-- Pushing a value onto a query before it is merged is pushing it afterwards. -/
theorem pushAll_groupPairs_pushGroup (key value : String) (gs : List (String × List String))
    (hn : (gs.map (·.1)).Nodup) (hv : ∀ g ∈ gs, g.2 ≠ []) (q : Query) :
    q.pushAll (groupPairs (pushGroup key value gs)) = (q.pushAll (groupPairs gs)).push key value := by
  induction gs generalizing q with
  | nil => simp [pushGroup, groupPairs, pairs, pushAll]
  | cons g gs ih =>
    rw [List.map_cons, List.nodup_cons] at hn
    by_cases h : g.1 = key
    · -- the new value stands in front of the pairs of the later groups, which have other keys
      subst h
      have hp : pushGroup g.1 value (g :: gs) = (g.1, g.2 ++ [value]) :: gs := by simp [pushGroup]
      have hk : g.1 ∈ (q.pushAll (g.2.map fun v => (g.1, v))).keys := by
        obtain ⟨v, hv⟩ := List.exists_mem_of_ne_nil g.2 (hv g (by simp))
        exact (mem_keys_pushAll _ _ _).2 (.inr (List.mem_map.2 ⟨(g.1, v), by simpa using hv, rfl⟩))
      have hne : ∀ p ∈ groupPairs gs, p.1 ≠ g.1 := by
        rintro p hp he
        obtain ⟨x, hx, hm⟩ := List.mem_flatMap.1 hp
        obtain ⟨v, -, rfl⟩ := List.mem_map.1 hm
        exact hn.1 (List.mem_map.2 ⟨x, hx, he⟩)
      rw [hp, groupPairs_cons, groupPairs_cons, List.map_append, pushAll_append, pushAll_append,
        pushAll_append]
      exact pushAll_push_comm value hk hne
    · have hp : pushGroup key value (g :: gs) = g :: pushGroup key value gs := by simp [pushGroup, h]
      rw [hp, groupPairs_cons, groupPairs_cons, pushAll_append, pushAll_append]
      exact ih hn.2 (fun x hx => hv x (by simp [hx])) _

theorem merge_push (q : Query) {r : Query} (hr : r.WellFormed) (key value : String) :
    q.merge (r.push key value) = (q.merge r).push key value :=
  pushAll_groupPairs_pushGroup key value r.groups hr.1 hr.2 q

theorem merge_pushAll (q : Query) {r : Query} (hr : r.WellFormed) (ps : List (String × String)) :
    q.merge (r.pushAll ps) = (q.merge r).pushAll ps := by
  induction ps generalizing r with
  | nil => rfl
  | cons p ps ih =>
    calc q.merge (r.pushAll (p :: ps))
        = (q.merge (r.push p.1 p.2)).pushAll ps := ih (hr.push p.1 p.2)
      _ = ((q.merge r).push p.1 p.2).pushAll ps := by rw [merge_push q hr]

theorem merge_assoc (q : Query) {r : Query} (hr : r.WellFormed) (s : Query) :
    (q.merge r).merge s = q.merge (r.merge s) :=
  (merge_pushAll q hr s.pairs).symm

theorem merge_empty (q : Query) : q.merge empty = q := rfl

/-- A push passes by the groups of other keys. -/
theorem pushGroup_append {key : String} (value : String) {gs : List (String × List String)}
    (h : key ∉ gs.map (·.1)) (hs : List (String × List String)) :
    pushGroup key value (gs ++ hs) = gs ++ pushGroup key value hs := by
  induction gs with
  | nil => rfl
  | cons g gs ih =>
    rw [List.map_cons, List.mem_cons, not_or] at h
    have hg : ¬ g.1 = key := fun e => h.1 e.symm
    simp [pushGroup, hg, ih h.2]

/-- The values of a key that stands last are added behind each other. -/
theorem pushAll_last {key : String} {gs : List (String × List String)} (h : key ∉ gs.map (·.1))
    (us vs : List String) :
    pushAll ⟨gs ++ [(key, us)]⟩ (vs.map fun v => (key, v)) = ⟨gs ++ [(key, us ++ vs)]⟩ := by
  induction vs generalizing us with
  | nil => simp [pushAll]
  | cons v vs ih =>
    have hp : push ⟨gs ++ [(key, us)]⟩ key v = ⟨gs ++ [(key, us ++ [v])]⟩ := by
      rw [push, pushGroup_append v h]
      simp [pushGroup]
    calc pushAll ⟨gs ++ [(key, us)]⟩ ((v :: vs).map fun v => (key, v))
        = pushAll (push ⟨gs ++ [(key, us)]⟩ key v) (vs.map fun v => (key, v)) := rfl
      _ = ⟨gs ++ [(key, us ++ v :: vs)]⟩ := by rw [hp, ih]; simp

/-- Groups of new keys, pushed pair by pair, stand behind the others. -/
theorem pushAll_groupPairs {gs : List (String × List String)} (hn : (gs.map (·.1)).Nodup)
    (hv : ∀ g ∈ gs, g.2 ≠ []) {q : Query} (hq : ∀ g ∈ gs, g.1 ∉ q.keys) :
    q.pushAll (groupPairs gs) = ⟨q.groups ++ gs⟩ := by
  induction gs generalizing q with
  | nil => simp [groupPairs, pairs, pushAll]
  | cons g gs ih =>
    rw [List.map_cons, List.nodup_cons] at hn
    have hg : g.1 ∉ q.keys := hq g (by simp)
    have hgroup : q.pushAll (g.2.map fun v => (g.1, v)) = ⟨q.groups ++ [g]⟩ := by
      obtain ⟨key, values⟩ := g
      obtain ⟨v, vs, rfl⟩ := List.exists_cons_of_ne_nil (hv (key, values) (by simp))
      have hp : q.push key v = ⟨q.groups ++ [(key, [v])]⟩ := by
        have := pushGroup_append v hg []
        rw [List.append_nil] at this
        rw [push, this, pushGroup]
      calc q.pushAll ((v :: vs).map fun v => (key, v))
          = (q.push key v).pushAll (vs.map fun v => (key, v)) := rfl
        _ = ⟨q.groups ++ [(key, v :: vs)]⟩ := by rw [hp, pushAll_last hg]; rfl
    rw [groupPairs_cons, pushAll_append, hgroup, ih hn.2 (fun x hx => hv x (by simp [hx]))]
    · simp
    · intro x hx hk
      have hmem : x.1 ∈ q.keys ∨ x.1 = g.1 := by simpa [keys] using hk
      rcases hmem with hmem | hmem
      · exact hq x (by simp [hx]) hmem
      · exact hn.1 (List.mem_map.2 ⟨x, hx, hmem⟩)

theorem empty_merge {q : Query} (hq : q.WellFormed) : empty.merge q = q :=
  pushAll_groupPairs (q := empty) hq.1 hq.2 fun _ _ => by simp [keys, empty]

/-- Well-formed queries are made of their pairs. -/
theorem ofPairs_pairs {q : Query} (hq : q.WellFormed) : ofPairs q.pairs = q := empty_merge hq

/-! ## Values of a merged query -/

theorem mem_keys_merge (q : Query) {r : Query} (hr : r.WellFormed) (key : String) :
    key ∈ (q.merge r).keys ↔ key ∈ q.keys ∨ key ∈ r.keys := by
  rw [merge, mem_keys_pushAll, mem_map_pairs hr]

theorem find?_pushAll (q : Query) (ps : List (String × String)) (key : String) :
    (q.pushAll ps).find? key =
      if key ∈ ps.map (·.1) then
        some ((q.find? key).getD [] ++ (ps.filter (·.1 = key)).map (·.2))
      else q.find? key := by
  induction ps generalizing q with
  | nil => simp [pushAll]
  | cons p ps ih =>
    have hp : q.pushAll (p :: ps) = (q.push p.1 p.2).pushAll ps := rfl
    rw [hp, ih, find?_push]
    by_cases h : key = p.1
    · subst h
      by_cases hm : p.1 ∈ ps.map (·.1)
      · simp_all
      · have hf : ps.filter (·.1 = p.1) = [] := by
          rw [List.filter_eq_nil_iff]
          intro r hr he
          exact hm (List.mem_map.2 ⟨r, hr, by simpa using he⟩)
        simp [hm, hf]
    · have h' : ¬ p.1 = key := fun e => h e.symm
      simp only [h, h', List.map_cons, List.mem_cons, false_or, if_false, decide_false,
        List.filter_cons_of_neg, Bool.false_eq_true, not_false_eq_true]

/-- The values of a key are those of the first query, then those of the second. -/
theorem find?_merge (q : Query) {r : Query} (hr : r.WellFormed) (key : String) :
    (q.merge r).find? key =
      if key ∈ r.keys then some ((q.find? key).getD [] ++ (r.find? key).getD []) else q.find? key := by
  have hempty : r.find? key = (empty.pushAll r.pairs).find? key := by
    rw [← merge, empty_merge hr]
  have hkeys := mem_map_pairs hr key
  by_cases h : key ∈ r.keys
  · rw [find?_pushAll, if_pos (hkeys.2 h)] at hempty
    rw [merge, find?_pushAll, if_pos (hkeys.2 h), if_pos h, hempty]
    rfl
  · rw [merge, find?_pushAll, if_neg (mt hkeys.1 h), if_neg h]

/-- The second query has nothing for a key: its values are those of the first. -/
theorem find?_merge_left (q : Query) {r : Query} (hr : r.WellFormed) {key : String}
    (hk : key ∉ r.keys) : (q.merge r).find? key = q.find? key := by
  rw [find?_merge q hr, if_neg hk]

/-- The first query has nothing for a key: its values are those of the second. -/
theorem find?_merge_right {q r : Query} (hr : r.WellFormed) {key : String} (hk : key ∉ q.keys) :
    (q.merge r).find? key = r.find? key := by
  rw [find?_merge q hr, (find?_eq_none_iff q key).2 hk]
  by_cases h : key ∈ r.keys
  · rw [if_pos h]
    rcases hvalues : r.find? key with _ | values
    · exact absurd h ((find?_eq_none_iff r key).1 hvalues)
    · rfl
  · rw [if_neg h, (find?_eq_none_iff r key).2 h]

end Query

end Signpost

import Mathlib.Data.List.Pairwise
import Mathlib.Data.List.Perm.Basic
import Mathlib.Logic.Equiv.Defs
import Signpost.Proofs.Matcher.Consumption
import Signpost.Proofs.Matcher.Shape

/-!
# The order of alternatives

The order of alternatives does not matter to a request that no two of them read.

* `Reorders`: the same matcher with its alternatives in another order, at every level.
  `reorders_oneOf`: permuted alternatives are reordered.
* `parse_choice_of_place`: alternatives of which at most one reads a cursor may stand at any places.
* `IsUnambiguous`: of each alternation, at most one alternative reads a request that declares a media type.
* `parse_of_reorders`: such a request is read in the same way in every order, with the same result and the
  same rest. It is an induction on the reordering; readers keep the media type.
-/

namespace Signpost.Matcher

variable {α β : Type}

/-! ## Other orders -/

/-- The second matcher has the alternatives of the first in some order, at every level. -/
inductive Reorders : {α : Type} → Matcher α → Matcher α → Prop
  | refl {α : Type} (m : Matcher α) : Reorders m m
  | skip {α : Type} {first first' : Matcher α} {next next' : Matcher Unit} (hf : Reorders first first')
      (hn : Reorders next next') : Reorders (skip first next) (skip first' next')
  | take {α β : Type} {first first' : Matcher α} {next next' : Matcher β} (hf : Reorders first first')
      (hn : Reorders next next') : Reorders (take first next) (take first' next')
  | whole {α : Type} {inner inner' : Matcher α} (h : Reorders inner inner') :
      Reorders (whole inner) (whole inner')
  | map {α β : Type} {inner inner' : Matcher α} (h : Reorders inner inner') (c : Conversion α β) :
      Reorders (map inner c) (map inner' c)
  | choice {α : Type} {count count' : Nat} {alternative : Fin count → Matcher α}
      {alternative' : Fin count' → Matcher α} (place : Fin count' ≃ Fin count)
      (h : ∀ i, Reorders (alternative (place i)) (alternative' i)) :
      Reorders (choice count alternative) (choice count' alternative')

/-- Each entry of a permuted list has a place in the other. -/
theorem exists_place_of_perm {γ : Type 1} {xs ys : List γ} (h : xs.Perm ys) :
    ∃ place : Fin ys.length ≃ Fin xs.length, ∀ i, xs.get (place i) = ys.get i := by
  classical
  exact ⟨⟨h.symm.idxBij, h.idxBij, fun _ => h.idxBij_idxBij_symm, fun _ => h.idxBij_symm_idxBij⟩,
    fun i => h.getElem_idxBij_symm_eq_getElem i⟩

/-- Permuted alternatives are reordered. -/
theorem reorders_oneOf {ms ns : List (Matcher α)} (h : ms.Perm ns) : (oneOf ms).Reorders (oneOf ns) := by
  obtain ⟨place, hplace⟩ := exists_place_of_perm h
  exact .choice place fun i => hplace i ▸ .refl _

/-! ## Alternations with one reader -/

/-- An alternation reads as the only one of its alternatives that reads the cursor. -/
theorem parse_choice_of_unique {count : Nat} {alternative : Fin count → Matcher α} {d e : Cursor} {a : α}
    {i : Fin count} (hunique : ∀ j, (alternative j).Reads d → j = i)
    (ha : (alternative i).parse d = (.ok a, e)) : (choice count alternative).parse d = (.ok a, e) :=
  parse_choice_of_before (fun j hj hreads => absurd (hunique j hreads) (Fin.ne_of_lt hj)) ha

/-- An alternation reads nothing when none of its alternatives reads the cursor. -/
theorem parse_choice_of_forall {count : Nat} {alternative : Fin count → Matcher α} {d : Cursor}
    (h : ∀ i, ¬(alternative i).Reads d) :
    (choice count alternative).parse d = (.error .noAlternative, d) := by
  rcases hp : ((choice count alternative).parse d).1 with e | a
  · rw [parse] at hp ⊢
    exact parseFirst_of_failed hp
  · obtain ⟨i, hi⟩ := exists_of_parse_choice (Prod.ext hp rfl)
    exact absurd ⟨a, congrArg Prod.fst hi⟩ (h i)

/-- Alternatives of which at most one reads the cursor are read in the same way at other places. -/
theorem parse_choice_of_place {count count' : Nat} {alternative : Fin count → Matcher α}
    {alternative' : Fin count' → Matcher α} (place : Fin count' ≃ Fin count) {d : Cursor}
    (hplaced : ∀ i, (alternative' i).parse d = (alternative (place i)).parse d)
    (hunique : ∀ i j, (alternative i).Reads d → (alternative j).Reads d → i = j) :
    (choice count' alternative').parse d = (choice count alternative).parse d := by
  have hreads (i : Fin count') : (alternative' i).Reads d ↔ (alternative (place i)).Reads d := by
    rw [Reads, Reads, hplaced i]
  by_cases hex : ∃ i, (alternative i).Reads d
  · obtain ⟨i, a, ha⟩ := hex
    have hparse : (alternative i).parse d = (.ok a, ((alternative i).parse d).2) := Prod.ext ha rfl
    rw [parse_choice_of_unique (fun j hj => hunique j i hj ⟨a, ha⟩) hparse]
    refine parse_choice_of_unique (i := place.symm i) (fun j hj => ?_) ?_
    · rw [← hunique _ i ((hreads j).1 hj) ⟨a, ha⟩, Equiv.symm_apply_apply]
    · rw [hplaced, Equiv.apply_symm_apply, hparse]
  · have hnone (i : Fin count) : ¬(alternative i).Reads d := fun hi => hex ⟨i, hi⟩
    rw [parse_choice_of_forall hnone]
    exact parse_choice_of_forall fun i hi => hnone _ ((hreads i).1 hi)

/-! ## Unambiguous matchers -/

/-- Of each alternation, at most one alternative reads a cursor that declares a media type. -/
@[simp] def IsUnambiguous : {α : Type} → Matcher α → Prop
  | _, skip first next => first.IsUnambiguous ∧ next.IsUnambiguous
  | _, take first next => first.IsUnambiguous ∧ next.IsUnambiguous
  | _, whole inner => inner.IsUnambiguous
  | _, map inner _ => inner.IsUnambiguous
  | _, choice _ alternative => (∀ i, (alternative i).IsUnambiguous) ∧
      ∀ d : Cursor, d.contentType ≠ none → ∀ i j, (alternative i).Reads d → (alternative j).Reads d → i = j
  | _, _ => True

/-- Readers keep the media type that a cursor declares. -/
theorem contentType_ne_none_of_parse {m : Matcher α} {d e : Cursor} {r : Except MatchError α}
    (hd : d.contentType ≠ none) (h : m.parse d = (r, e)) : e.contentType ≠ none := by
  have hkeeps := (consumes_parse m d).contentType
  rw [h] at hkeeps
  rwa [hkeeps]

/-- An unambiguous matcher reads a cursor that declares a media type in the same way in every order. -/
theorem parse_of_reorders {m n : Matcher α} (h : m.Reorders n) (hm : m.IsUnambiguous) {d : Cursor}
    (hd : d.contentType ≠ none) : n.parse d = m.parse d := by
  induction h generalizing d with
  | refl m => rfl
  | skip hf hn ihf ihn =>
    rw [parse, parse, ihf hm.1 hd]
    split
    · rfl
    · rename_i a e hfirst
      rw [ihn hm.2 (contentType_ne_none_of_parse hd hfirst)]
  | take hf hn ihf ihn =>
    rw [parse, parse, ihf hm.1 hd]
    split
    · rfl
    · rename_i a e hfirst
      rw [ihn hm.2 (contentType_ne_none_of_parse hd hfirst)]
  | whole h ih => rw [parse, parse, ih hm hd]
  | map h c ih => rw [parse, parse, ih hm hd]
  | choice place h ih => exact parse_choice_of_place place (fun i => ih i (hm.1 (place i)) hd) (hm.2 d hd)

/-- Among alternatives of which no two read the cursor there is one place for those that do. -/
theorem eq_of_pairwise_not_reads {ms : List (Matcher α)} {d : Cursor}
    (h : ms.Pairwise fun m n => ¬(m.Reads d ∧ n.Reads d)) {i j : Fin ms.length}
    (hi : (ms.get i).Reads d) (hj : (ms.get j).Reads d) : i = j := by
  have hget := List.pairwise_iff_get.1 h
  rcases Nat.lt_trichotomy i j with hlt | heq | hgt
  · exact absurd ⟨hi, hj⟩ (hget i j hlt)
  · exact Fin.ext heq
  · exact absurd ⟨hj, hi⟩ (hget j i hgt)

/-- An alternation of which no two alternatives read the cursor reads it with any of them that does. -/
theorem parse_oneOf_of_pairwise {ms : List (Matcher α)} {d e : Cursor} {a : α}
    (h : ms.Pairwise fun m n => ¬(m.Reads d ∧ n.Reads d)) {i : Fin ms.length}
    (ha : (ms.get i).parse d = (.ok a, e)) : (oneOf ms).parse d = (.ok a, e) :=
  parse_choice_of_unique (fun _ hj => eq_of_pairwise_not_reads h hj ⟨a, congrArg Prod.fst ha⟩) ha

/-- Alternatives are unambiguous if each is and no two read a cursor that declares a media type. -/
theorem isUnambiguous_oneOf {ms : List (Matcher α)} (h : ∀ m ∈ ms, m.IsUnambiguous)
    (hpairs : ∀ d : Cursor, d.contentType ≠ none → ms.Pairwise fun m n => ¬(m.Reads d ∧ n.Reads d)) :
    (oneOf ms).IsUnambiguous :=
  ⟨fun i => h _ (List.get_mem ms i), fun d hd _ _ hi hj => eq_of_pairwise_not_reads (hpairs d hd) hi hj⟩

/-! ## Alternatives that are apart -/

/-- No cursor is read by two matchers that are apart. -/
theorem Apart.not_reads {m n : Matcher α} (h : m.Apart n) (d : Cursor) : ¬(m.Reads d ∧ n.Reads d) := by
  rintro ⟨hm, hn⟩
  obtain ⟨q, hq⟩ := hm.admits
  obtain ⟨q', hq'⟩ := hn.admits
  exact h _ _ q q' hq hq'

/-- At most one of some alternatives with conflicting shapes reads a cursor. -/
theorem pairwise_not_reads {ms : List (Matcher α)} (h : ms.Pairwise fun m n => m.conflicts n = true)
    (d : Cursor) : ms.Pairwise fun m n => ¬(m.Reads d ∧ n.Reads d) :=
  h.imp fun hmn => (apart_of_conflicts hmn).not_reads d

theorem isUnambiguous_of_conflicts {ms : List (Matcher α)} (h : ∀ m ∈ ms, m.IsUnambiguous)
    (hconflicts : ms.Pairwise fun m n => m.conflicts n = true) : (oneOf ms).IsUnambiguous :=
  isUnambiguous_oneOf h fun d _ => pairwise_not_reads hconflicts d

end Signpost.Matcher

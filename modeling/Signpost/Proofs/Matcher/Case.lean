import Mathlib.Data.List.Pairwise
import Signpost.Proofs.Conversion.Composite
import Signpost.Proofs.Matcher.Exact
import Signpost.Proofs.Matcher.Shape

/-!
# Alternatives for cases

An alternative that maps a conversion takes only the values that the conversion unwraps.

* `claims`: whether an alternative takes a value, without writing it.
* `pairwise_replaces`: alternatives of which at most one takes each value.
* `hasDecodedBodies_of_claims`: a value that is read is read with the alternative that takes it.
* `IsOrderly`: exact, composable and exclusive matchers; `isOrderly_oneOf` for alternatives whose cases
  differ and whose shapes conflict.
-/

namespace Signpost

variable {α β : Type}

namespace Matcher

/-! ## Claims -/

/-- The conversion of a mapped matcher unwraps the value; other matchers take all values. -/
def claims : {α : Type} → Matcher α → α → Bool
  | _, map _ c, a => (c.unapply a).isSome
  | _, _, _ => true

theorem print_of_not_claims {m : Matcher α} {a : α} (h : m.claims a = false) (d : Cursor) :
    (m.print a d).1 = .error .unclaimed := by
  cases m with
  | map inner c =>
    have hc : c.unapply a = none := Option.isNone_iff_eq_none.1 (Option.isSome_eq_false_iff.1 h)
    rw [print, hc]
  | _ => cases h

/-- A mapped matcher refuses only values that its conversion does not unwrap as those of other cases. -/
theorem unapply_of_print {inner : Matcher α} {c : Conversion α β} {b : β} {d : Cursor}
    (h : ((map inner c).print b d).1 = .error .unclaimed) : c.unapply b = none := by
  rw [print] at h
  rcases hc : c.unapply b with _ | a
  · rfl
  · rw [hc] at h
    dsimp only at h
    split at h <;> simp at h
    rename_i hne _
    exact absurd h hne

theorem claims_of_print {m : Matcher α} {a : α} {d : Cursor}
    (h : (m.print a d).1 ≠ .error .unclaimed) : m.claims a = true := by
  rw [← Bool.not_eq_false]
  intro hno
  exact h (print_of_not_claims hno d)

theorem replaces_of_claims {m n : Matcher α} (h : ∀ a, n.claims a = true → m.claims a = false) :
    m.Replaces n :=
  .inl fun a hn => print_of_not_claims (h a (claims_of_print hn)) .empty

/-- Alternatives of which at most one takes each value replace the later ones. -/
theorem pairwise_replaces {ms : List (Matcher α)} (h : ∀ a, ms.countP (·.claims a) ≤ 1) :
    ms.Pairwise Replaces := by
  induction ms with
  | nil => exact .nil
  | cons m ms ih =>
    refine .cons (fun n hn => replaces_of_claims fun a hna => ?_) (ih fun a => ?_)
    · have hle := h a
      rw [List.countP_cons] at hle
      have hpos : 0 < ms.countP (·.claims a) := List.countP_pos_iff.2 ⟨n, hn, hna⟩
      rw [Bool.eq_false_iff]
      intro hma
      rw [if_pos hma] at hle
      omega
    · have hle := h a
      rw [List.countP_cons] at hle
      omega

/-! ## Bodies of cases -/

/-- An exact alternative takes the values that are read with it. -/
theorem HasDecodedBodies.claims {m : Matcher α} {a : α} (h : m.HasDecodedBodies a) (hm : m.IsExact) :
    m.claims a = true := by
  cases m with
  | map inner c =>
    obtain ⟨b, hb, -⟩ := h
    rw [Matcher.claims, hm.2 b a hb, Option.isSome_some]
  | _ => rfl

/-- A value that one of some exact alternatives takes is read with that alternative. -/
theorem hasDecodedBodies_of_claims {ms : List (Matcher β)} {inner : Matcher α} {c : Conversion α β} {a : α}
    {b : β} (hexact : (oneOf ms).IsExact) (hclaims : ms.filter (·.claims b) = [map inner c])
    (hunapply : c.unapply b = some a) (h : (oneOf ms).HasDecodedBodies b) : inner.HasDecodedBodies a := by
  obtain ⟨i, hi⟩ := h
  have hmem : ms.get i ∈ ms.filter (·.claims b) :=
    List.mem_filter.2 ⟨List.get_mem ms i, hi.claims (hexact.1 i)⟩
  rw [hclaims, List.mem_singleton] at hmem
  have hone := hexact.1 i
  rw [hmem] at hi hone
  obtain ⟨a', ha', hinner⟩ := hi
  rw [hone.2 a' b ha'] at hunapply
  cases hunapply
  exact hinner

/-! ## Orderly matchers -/

/-- What is read is spelled, and what is spelled is read back. -/
structure IsOrderly (m : Matcher α) : Prop where
  exact : m.IsExact
  composable : m.IsComposable true
  exclusive : m.IsExclusive

theorem isOrderly_iff {m : Matcher α} :
    m.IsOrderly ↔ m.IsExact ∧ m.IsComposable true ∧ m.IsExclusive :=
  ⟨fun h => ⟨h.exact, h.composable, h.exclusive⟩, fun h => ⟨h.1, h.2.1, h.2.2⟩⟩

/-- An alternative for a case is orderly if what it wraps is. -/
theorem isOrderly_case_iff {inner : Matcher α} {wrap : α → β} {unwrap : β → Option α} :
    (map (whole inner) (.case wrap unwrap)).IsOrderly ↔
      (inner.IsExact ∧ inner.IsComposable true ∧ inner.IsExclusive) ∧
        ∀ a, unwrap (wrap a) = some a := by
  simp only [isOrderly_iff, IsExact, IsComposable, IsExclusive, Conversion.exact_case_iff, true_and]
  tauto

/-- Alternatives are orderly if each is and each pair replaces and is exclusive. -/
theorem isOrderly_of_pairwise {ms : List (Matcher α)} (h : ∀ m ∈ ms, m.IsOrderly)
    (hreplaces : ms.Pairwise Replaces)
    (hexclusive : ms.Pairwise fun m n => m.Apart n ∨
      ∀ a, (m.print a .empty).1 = .error .unclaimed → (n.print a .empty).1 = .error .unclaimed) :
    (oneOf ms).IsOrderly where
  exact := ⟨fun i => (h _ (List.get_mem ms i)).exact,
    fun i j hlt => List.pairwise_iff_get.1 hreplaces j i hlt⟩
  composable := fun i => (h _ (List.get_mem ms i)).composable
  exclusive := ⟨fun i => (h _ (List.get_mem ms i)).exclusive,
    fun i j hlt => List.pairwise_iff_get.1 hexclusive j i hlt⟩

/-- Alternatives for different cases with conflicting shapes are orderly if each is. -/
theorem isOrderly_oneOf {ms : List (Matcher α)} (h : ∀ m ∈ ms, m.IsOrderly)
    (hclaims : ∀ a, ms.countP (·.claims a) ≤ 1)
    (hconflicts : ms.Pairwise fun m n => m.conflicts n = true) : (oneOf ms).IsOrderly :=
  isOrderly_of_pairwise h (pairwise_replaces hclaims)
    (hconflicts.imp fun hmn => .inl (apart_of_conflicts hmn))

end Matcher

end Signpost

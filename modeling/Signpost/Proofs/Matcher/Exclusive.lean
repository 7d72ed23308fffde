import Signpost.Proofs.Matcher.RoundTrip

/-!
# Exclusive alternatives

Method and path alone often decide between alternatives.

* `Admits`: the methods and paths that a matcher may read, whatever query and body are.
* `IsExclusive`: of two alternatives, either no request is admitted by both, or the earlier one claims
  every value that the later one does.
* `prevails_of_isExclusive`: in an exclusive matcher no alternative gets in the way of a value that is
  read back.
-/

namespace Signpost.Matcher

variable {α β : Type}

/-! ## Methods and paths -/

/-- The matcher may read a request with this method from the path `p` and leave the path `q`. -/
def Admits : {α : Type} → Matcher α → Http.Method → (p q : List String) → Prop
  | _, literal text, _, p, q => p = text :: q
  | _, method expected, m, p, q => m = expected ∧ p = q
  | _, segment c, _, p, q => ∃ text a, c.apply text = some a ∧ p = text :: q
  | _, skip first next, m, p, q => ∃ r, first.Admits m p r ∧ next.Admits m r q
  | _, take first next, m, p, q => ∃ r, first.Admits m p r ∧ next.Admits m r q
  | _, whole inner, m, p, q => q = [] ∧ inner.Admits m p q
  | _, map inner _, m, p, q => inner.Admits m p q
  | _, choice _ alternative, m, p, q => ∃ i, (alternative i).Admits m p q
  | _, _, _, p, q => p = q

/-- A matcher that reads keeps the method, and admits it with the path that it read. -/
theorem admits_of_parse {m : Matcher α} {d e : Cursor} {a : α} (h : m.parse d = (.ok a, e)) :
    e.method = d.method ∧ m.Admits d.method d.path e.path := by
  induction m generalizing d e with
  | start =>
    cases h
    exact ⟨rfl, rfl⟩
  | literal text =>
    obtain ⟨path, hpath, rfl⟩ := ok_of_parse_literal h
    exact ⟨rfl, hpath⟩
  | method m =>
    obtain ⟨hmethod, rfl⟩ := ok_of_parse_method h
    exact ⟨rfl, hmethod, rfl⟩
  | segment c =>
    obtain ⟨raw, path, hpath, ha, rfl⟩ := ok_of_parseSegment h
    exact ⟨rfl, raw, a, ha, hpath⟩
  | query key c =>
    obtain ⟨value, -, -, rfl⟩ := ok_of_parse_query h
    exact ⟨rfl, rfl⟩
  | optionalQuery key c =>
    have he : (parseOptional key c d).2 = e := (Prod.mk.inj h).2
    obtain ⟨hmethod, hpath⟩ := parseOptional_keeps key c d
    rw [he] at hmethod hpath
    exact ⟨hmethod, hpath.symm⟩
  | queryOr key c default =>
    have he : (parseOptional key c d).2 = e := (Prod.mk.inj h).2
    obtain ⟨hmethod, hpath⟩ := parseOptional_keeps key c d
    rw [he] at hmethod hpath
    exact ⟨hmethod, hpath.symm⟩
  | queryAll key c =>
    rcases ok_of_parse_queryAll h with ⟨-, rfl⟩ | ⟨values, -, -, rfl⟩
    · exact ⟨rfl, rfl⟩
    · exact ⟨rfl, rfl⟩
  | form codec =>
    obtain ⟨bytes, -, -, rfl⟩ := parseBody_ok h
    exact ⟨rfl, rfl⟩
  | json codec =>
    obtain ⟨bytes, -, -, rfl⟩ := parseBody_ok h
    exact ⟨rfl, rfl⟩
  | rawBody =>
    obtain ⟨-, rfl⟩ := ok_of_parse_rawBody h
    exact ⟨rfl, rfl⟩
  | skip first next ihf ihn =>
    obtain ⟨d', hf, hn⟩ := ok_of_parse_skip h
    obtain ⟨hm, ha⟩ := ihf hf
    obtain ⟨hm', ha'⟩ := ihn hn
    rw [hm] at hm' ha'
    exact ⟨hm', d'.path, ha, ha'⟩
  | take first next ihf ihn =>
    obtain ⟨d', hf, hn⟩ := ok_of_parse_take h
    obtain ⟨hm, ha⟩ := ihf hf
    obtain ⟨hm', ha'⟩ := ihn hn
    rw [hm] at hm' ha'
    exact ⟨hm', d'.path, ha, ha'⟩
  | whole inner ih =>
    obtain ⟨hi, hpath⟩ := ok_of_parse_whole h
    exact ⟨(ih hi).1, hpath, (ih hi).2⟩
  | map inner c ih =>
    obtain ⟨b, hi, -⟩ := ok_of_parse_map h
    exact ih hi
  | choice count alternative ih =>
    obtain ⟨i, hi⟩ := exists_of_parse_choice h
    exact ⟨(ih i hi).1, i, (ih i hi).2⟩

/-- The method and path of a cursor that a matcher reads. -/
theorem Reads.admits {m : Matcher α} {d : Cursor} (h : m.Reads d) :
    ∃ q, m.Admits d.method d.path q := by
  obtain ⟨a, ha⟩ := h
  exact ⟨_, (admits_of_parse (Prod.ext ha rfl)).2⟩

/-! ## Exclusion -/

/-- No request is admitted by both matchers. -/
def Apart (m n : Matcher α) : Prop :=
  ∀ method p q q', m.Admits method p q → ¬n.Admits method p q'

/-- Of two alternatives of the matcher, no request is admitted by both, or the earlier one claims all that
the later one does. -/
def IsExclusive : {α : Type} → Matcher α → Prop
  | _, skip first next => first.IsExclusive ∧ next.IsExclusive
  | _, take first next => first.IsExclusive ∧ next.IsExclusive
  | _, whole inner => inner.IsExclusive
  | _, map inner _ => inner.IsExclusive
  | _, choice _ alternative => (∀ i, (alternative i).IsExclusive) ∧
      ∀ i, ∀ j < i, (alternative j).Apart (alternative i) ∨
        ∀ a, ((alternative j).print a .empty).1 = .error .unclaimed →
          ((alternative i).print a .empty).1 = .error .unclaimed
  | _, _ => True

/-- No alternative of an exclusive matcher gets in the way of a value that is read back. -/
theorem prevails_of_isExclusive {m : Matcher α} (hm : m.IsExclusive) (a : α) (d : Cursor) :
    m.Prevails a d := by
  induction m generalizing d with
  | skip first next ihf ihn => exact ⟨ihf hm.1 a d, ihn hm.2 () _⟩
  | take first next ihf ihn => exact ⟨ihf hm.1 a.1 d, ihn hm.2 a.2 _⟩
  | whole inner ih => exact ih hm a d
  | map inner c ih => exact fun b _ => ih hm b d
  | choice count alternative ih =>
    rintro i ⟨hbefore, hi⟩
    refine ⟨fun hreads j hj hother => ?_, ih i (hm.1 i) a d⟩
    rcases hm.2 i j hj with hapart | hclaims
    · obtain ⟨q, hq⟩ := hreads.admits
      obtain ⟨q', hq'⟩ := hother.admits
      exact hapart _ _ q' q hq' hq
    · exact hi (hclaims a (hbefore j hj))
  | _ => trivial

end Signpost.Matcher

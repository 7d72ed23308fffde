import Signpost.Proofs.Matcher.Acceptance
import Signpost.Proofs.Matcher.Body
import Signpost.Proofs.Router.Canonical

/-!
# Outcomes of a router

What a router answers to a request, when its root is an alternation that reads to the end of the path and
for which bodies decide nothing.

* `resolve_of_closed`: a request that the root reads is resolved, unless it has a body that was left.
* `IsClosedChoice.resolve_cases`: the answers there are.
* `IsClosedChoice.resolve_eq_unconsumedBody_iff`: when a body is left.
* `usesBody_of_resolve`: a request with a body is resolved to a route that is written with one.
-/

namespace Signpost

open Matcher (choice consumes_parse parse_withBody body_of_parse path_eq_nil_of_parse)

namespace Router

variable {α : Type} {r : Router α} {a : α} {d e : Cursor}

/-- A request that is read to the end of its path is resolved, unless a body is left. -/
theorem resolve_of_closed (hclosed : ∀ s ∈ r.root.shapes, s.closed = true) (hm : d.malformed = none)
    (h : r.root.parse d = (.ok a, e)) :
    r.resolve d = if e.isBodyConsumed then .ok a else .error .unconsumedBody := by
  have hpath : e.isPathConsumed = true := List.isEmpty_iff.2 (path_eq_nil_of_parse hclosed h)
  rw [resolve, hm]
  simp only [h, hpath]
  rcases e.isBodyConsumed <;> rfl

/-- The root of the router is an alternation, and all of its ways read to the end of the path. -/
structure IsClosedChoice (r : Router α) : Prop where
  root : ∃ count alternative, r.root = choice count alternative
  closed : ∀ s ∈ r.root.shapes, s.closed = true

/-- The root reads the request, or the router has no alternative for it. -/
theorem IsClosedChoice.parse_cases (hr : r.IsClosedChoice) (d : Cursor) :
    (∃ a e, r.root.parse d = (.ok a, e)) ∨ ∃ e, r.root.parse d = (.error .noAlternative, e) := by
  rcases hparse : r.root.parse d with ⟨cause | a, e⟩
  · obtain ⟨count, alternative, hroot⟩ := hr.root
    rw [hroot, Matcher.parse] at hparse
    have hfailed := Matcher.parseFirst_of_failed (congrArg Prod.fst hparse)
    exact .inr ⟨d, hparse.symm.trans hfailed⟩
  · exact .inl ⟨a, e, rfl⟩

/-- A request is resolved, or it is malformed, is one that no alternative reads, or has a body that is
left. -/
theorem IsClosedChoice.resolve_cases (hr : r.IsClosedChoice) (d : Cursor) :
    (∃ a, r.resolve d = .ok a) ∨ (∃ cause, r.resolve d = .error (.malformedRequest cause)) ∨
      r.resolve d = .error .noAlternative ∨ r.resolve d = .error .unconsumedBody := by
  rcases hm : d.malformed with _ | cause
  · rcases hr.parse_cases d with ⟨a, e, h⟩ | ⟨e, h⟩
    · rw [resolve_of_closed hr.closed hm h]
      rcases e.isBodyConsumed
      · exact .inr (.inr (.inr rfl))
      · exact .inl ⟨a, rfl⟩
    · exact .inr (.inr (.inl (resolve_of_parse_error hm h)))
  · exact .inr (.inl ⟨cause, by rw [resolve, hm]⟩)

/-- A body is left exactly where the request without it is resolved. -/
theorem IsClosedChoice.resolve_eq_unconsumedBody_iff (hr : r.IsClosedChoice)
    (hindifferent : r.root.IsIndifferent) (d : Cursor) :
    r.resolve d = .error .unconsumedBody ↔
      d.malformed = none ∧ d.isBodyConsumed = false ∧ ∃ a, r.resolve { d with body := none } = .ok a := by
  constructor
  · intro h
    by_cases hm : d.malformed = none
    · rcases hr.parse_cases d with ⟨a, e, hparse⟩ | ⟨e, hparse⟩
      · rw [resolve_of_closed hr.closed hm hparse] at h
        have hleft : e.isBodyConsumed = false := by
          by_contra hconsumed
          rw [if_pos (by simpa using hconsumed)] at h
          cases h
        have hconsumes : d.Consumes e := by simpa only [hparse] using consumes_parse r.root d
        have hbody : e.body = d.body := by
          refine hconsumes.body.resolve_right fun hnone => ?_
          rw [Cursor.isBodyConsumed, hnone] at hleft
          cases hleft
        have hwithout := parse_withBody hindifferent hparse hbody none
        refine ⟨hm, ?_, a, ?_⟩
        · rwa [Cursor.isBodyConsumed, ← hbody]
        · rw [resolve_of_closed hr.closed (d := { d with body := none }) hm hwithout]
          rfl
      · rw [resolve_of_parse_error hm hparse] at h
        cases h
    · obtain ⟨cause, hcause⟩ := Option.ne_none_iff_exists'.1 hm
      rw [resolve, hcause] at h
      cases h
  · rintro ⟨hm, hbody, a, h⟩
    obtain ⟨-, e, hparse, -, -⟩ := resolve_eq_ok_iff.1 h
    have hconsumes : Cursor.Consumes { d with body := none } e := by
      simpa only [hparse] using consumes_parse r.root { d with body := none }
    have hnone : e.body = none := hconsumes.body.elim id id
    have hwith := parse_withBody hindifferent hparse hnone d.body
    rw [resolve_of_closed hr.closed hm hwith, if_neg]
    rw [show Cursor.isBodyConsumed { e with body := d.body } = d.isBodyConsumed from rfl, hbody]
    exact Bool.false_ne_true

/-- A request with a body is resolved only to a route that is written with one. -/
theorem usesBody_of_resolve (hexact : r.root.IsExact) (hbody : d.isBodyConsumed = false)
    (h : r.resolve d = .ok a) : r.root.usesBody a = true := by
  obtain ⟨-, e, hparse, -, hconsumed⟩ := resolve_eq_ok_iff.1 h
  refine (body_of_parse hexact hparse).resolve_left fun hleft => ?_
  rw [Cursor.isBodyConsumed, hleft] at hconsumed
  rw [Cursor.isBodyConsumed, hconsumed] at hbody
  cases hbody

end Router

end Signpost

import Signpost.Proofs.Cursor.Incoming
import Signpost.Proofs.Matcher.Case
import Signpost.Proofs.Router.Audit

/-!
# Routes that are resolved

A router with an orderly root spells every route that it resolves, with the path and the method of the
request.

* `Router.resolve_eq_ok_iff`, `Router.parse_of_resolve`: a request that is resolved is read whole.
* `Router.spells_of_resolve`: the spelling of a resolved route.
* `Router.audit_of_isOrderly`: a spelled route passes its audit, unless its target is too long.
-/

namespace Signpost.Router

variable {α : Type} {r : Router α} {a : α} {d : Cursor}

/-- A request is resolved if it is not malformed and the root leaves nothing of its path and body. -/
theorem resolve_eq_ok_iff : r.resolve d = .ok a ↔ d.malformed = none ∧
    ∃ rest, r.root.parse d = (.ok a, rest) ∧ rest.isPathConsumed = true ∧ rest.isBodyConsumed = true := by
  constructor
  · intro h
    unfold resolve at h
    split at h
    · cases h
    · rename_i hm
      split at h
      · cases h
      · rename_i route rest hparse
        split_ifs at h with hpath hbody
        cases h
        exact ⟨hm, rest, hparse, by simpa using hpath, by simpa using hbody⟩
  · rintro ⟨hm, rest, hparse, hpath, hbody⟩
    exact resolve_of_parse hm hparse hpath hbody

/-- A request that is resolved was read up to the end of its path. -/
theorem parse_of_resolve (h : r.resolve d = .ok a) : ∃ rest, r.root.parse d = (.ok a, rest) ∧
    rest.path = [] := by
  obtain ⟨-, rest, hparse, hpath, -⟩ := resolve_eq_ok_iff.1 h
  exact ⟨rest, hparse, List.isEmpty_iff.1 hpath⟩

/-- A resolved route is spelled with the path of the request, its method and the first values of its
query keys. -/
theorem spells_of_resolve (hr : r.root.IsOrderly) (hd : d.IsIncoming) (h : r.resolve d = .ok a) :
    ∃ f chain, r.root.Spells a f chain ∧ f.path = d.path ∧ (∀ m ∈ f.method?, d.method = m) ∧
      ∀ key values, f.query.find? key = some values →
        ∃ more, d.query.find? key = some (values ++ more) := by
  obtain ⟨rest, hparse, hrest⟩ := parse_of_resolve h
  obtain ⟨-, f, chain, hspells, hrecovers⟩ := Matcher.spells_of_parse hr.exact hd hparse
  refine ⟨f, chain, hspells, ?_, hrecovers.method, hrecovers.values⟩
  rw [hrecovers.path, hrest, List.append_nil]

/-- Spelled routes of an orderly root pass their audit, unless their target is too long. -/
theorem audit_of_isOrderly [DecidableEq α] (hr : r.root.IsOrderly) {f : Cursor} {chain : List Feature}
    (hf : r.root.Spells a f chain) (hs : IsSound chain)
    (hsize : f.pathString.utf8ByteSize ≤ Http.Uri.maxBytes) : r.audit a = .ok () :=
  audit_of_spells hf hr.composable hs hsize (Matcher.prevails_of_isExclusive hr.exclusive a _)

/-- A route that can be written is printed, and so are its path and its link. -/
theorem print_of_tryPrint {f : Cursor} (h : r.tryPrint a = .ok f) :
    r.print a = .ok f ∧ r.path a = .ok f.pathString ∧
      r.link a = .ok (r.base.linkBase ++ f.pathString) := by
  have hprint : r.print a = .ok f := by
    rw [print, h]
  have hpath : r.path a = .ok f.pathString := by
    rw [path, hprint]
    rfl
  refine ⟨hprint, hpath, ?_⟩
  rw [link, hpath]
  rfl

end Signpost.Router

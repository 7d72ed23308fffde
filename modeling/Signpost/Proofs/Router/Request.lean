import Signpost.Proofs.Cursor.Exchange
import Signpost.Proofs.Matcher.Spellable
import Signpost.Proofs.Router.Canonical

/-!
# Requests of routes

What becomes of a written cursor when it is sent as a request and received.

* `Cursor.received`: a cursor as it is received, without a body that is empty.
* `Router.exists_request_of_audit`: a route that passes its audit is sent as a request, which is received
  as the cursor that the audit resolved.
* `audit_eq_ok_iff_spellable`: which routes without a body pass their audit.
* `resolve_request`: the request of such a route is resolved to it.
-/

namespace Signpost

/-! ## Media types in headers -/

/-- The header of a media type that is written by matchers may be sent, and is read as that media type. -/
theorem Http.MediaType.ofText?_text_written {t : MediaType} (ht : t ∈ [form, json]) :
    Request.isHeaderValue t.text = true ∧ t.text.toList.all Request.isVisible = true ∧
      ofText? t.text = some t := by
  rcases List.mem_pair.1 ht with rfl | rfl
  · decide +kernel
  · decide +kernel

namespace Cursor

/-- The cursor declares a media type that is written by matchers, or none. -/
def IsDeclared (d : Cursor) : Prop := ∀ t ∈ d.contentType, t ∈ [Http.MediaType.form, .json]

theorem isDeclared_empty : IsDeclared .empty := nofun

theorem isWriting_isDeclared : IsWriting fun d e => d.IsDeclared → e.IsDeclared where
  refl _ := id
  trans h h' := h' ∘ h
  pushSegment _ _ := id
  setMethod _ _ := id
  pushQuery _ _ _ := id
  merge d f hf h t ht := by
    rcases Option.or_eq_some_iff.1 ht with hfragment | ⟨-, hd⟩
    · exact hf isDeclared_empty t hfragment
    · exact h t hd

/-! ## Requests of written cursors -/

/-- The cursor as it is received, where an empty body counts as none. -/
def received (d : Cursor) : Cursor := { d with body := d.body.filter (· ≠ []) }

/-- A cursor that can be read again can be sent, and is received as it is read again. -/
theorem ofRequest_of_reread {f again : Cursor} (hf : f.IsDeclared) (h : Router.reread f = .ok again) :
    ∃ request, f.toRequest? = some request ∧ ofRequest request = again.received := by
  unfold Router.reread at h
  split at h
  · cases h
  · rename_i d hd
    cases h
    obtain ⟨uri, huri, -⟩ := ofParts_of_ofUri hd
    have hheader : f.HasHeader := fun t ht => (Http.MediaType.ofText?_text_written (hf t ht)).1
    have hsent := toRequest?_eq_some_iff.2 ⟨hheader, uri, huri, rfl⟩
    have htype : f.contentType.bind receivedType? = f.contentType := by
      rcases htype : f.contentType with _ | t
      · rfl
      · obtain ⟨-, hvisible, hread⟩ := Http.MediaType.ofText?_text_written (hf t htype)
        rw [Option.bind_some, receivedType?, if_pos hvisible, hread]
    refine ⟨_, hsent, ?_⟩
    rw [ofRequest_of_toRequest? hsent hd, htype]
    rfl

/-- A written cursor without a body is sent, unless it is too long, and received as it was. -/
theorem ofRequest_of_isBare {f : Cursor} (hf : f.IsBare) (hq : f.query.WellFormed)
    (hpath : ∀ segment ∈ f.path, segment ≠ "") (hm : f.malformed = none)
    (hsize : f.pathString.utf8ByteSize ≤ Http.Uri.maxBytes) :
    ∃ request, f.toRequest? = some request ∧ ofRequest request = f.setMethod f.method := by
  have hdeclared : f.IsDeclared := by
    rw [IsDeclared, hf.contentType]
    exact nofun
  have hreceived : (f.setMethod f.method).received = f.setMethod f.method := by
    rw [received, setMethod, hf.body]
    rfl
  rw [← hreceived]
  exact ofRequest_of_reread hdeclared (Router.reread_eq hq hpath hm hsize)

end Cursor

namespace Router

variable {α : Type} {r : Router α} {a : α}

/-- A spelled route is spelled as it is written. -/
theorem spells_of_tryPrint {f : Cursor} (hspellable : r.root.Spellable a)
    (hprint : r.tryPrint a = .ok f) : ∃ chain, r.root.Spells a f chain := by
  obtain ⟨g, chain, hspells⟩ := Matcher.exists_spells_of_spellable hspellable
  have hg := tryPrint_of_spells hspells
  rw [hprint] at hg
  cases hg
  exact ⟨chain, hspells⟩

/-- A route that passes its audit is written, read again and resolved. -/
theorem resolve_of_audit [DecidableEq α] (h : r.audit a = .ok ()) :
    ∃ f again, r.tryPrint a = .ok f ∧ reread f = .ok again ∧ r.resolve again = .ok a := by
  unfold audit at h
  split at h
  · cases h
  · rename_i f hprint
    split at h
    · cases h
    · rename_i again hagain
      split at h
      · cases h
      · rename_i found hfound
        split_ifs at h with heq
        rw [heq] at hfound
        exact ⟨f, again, hprint, hagain, hfound⟩

/-- A route that passes its audit is sent as a request, and what is received is the cursor that the audit
resolved, without a body that is empty. -/
theorem exists_request_of_audit [DecidableEq α] (h : r.audit a = .ok ()) :
    ∃ f again request, r.tryPrint a = .ok f ∧ reread f = .ok again ∧ r.resolve again = .ok a ∧
      r.request a = .ok (some request) ∧ Cursor.ofRequest request = again.received := by
  obtain ⟨f, again, hprint, hagain, hresolve⟩ := resolve_of_audit h
  have hdeclared : f.IsDeclared := by
    have hwritten := Matcher.print_writes (m := r.root) (a := a) Cursor.isWriting_isDeclared
      (fun _ => ⟨fun _ _ => id, fun _ mediaType hmem _ t ht => Option.some.inj ht ▸ hmem⟩) .empty
      Cursor.isDeclared_empty
    rwa [print_root_of_tryPrint hprint] at hwritten
  obtain ⟨request, hsent, hreceived⟩ := Cursor.ofRequest_of_reread hdeclared hagain
  refine ⟨f, again, request, hprint, hagain, hresolve, ?_, hreceived⟩
  rw [Router.request, (print_of_tryPrint hprint).1]
  exact congrArg Except.ok hsent

theorem isIncoming_of_reread {f again : Cursor} (hf : f.IsBare) (h : reread f = .ok again) :
    again.IsIncoming := by
  unfold reread at h
  split at h
  · cases h
  · rename_i read hread
    cases h
    obtain ⟨uri, -, hparts⟩ := Cursor.ofParts_of_ofUri hread
    exact (Cursor.isIncoming_of_ofParts hparts).congr rfl rfl (by rw [hf.body]; exact nofun)

/-- A route that is spelled with a short target passes its audit. -/
theorem audit_of_spellable [DecidableEq α] (hr : r.root.IsOrderly)
    (hsound : ∀ chain ∈ r.root.chains, IsSound chain) (hspellable : r.root.Spellable a) {f : Cursor}
    (hprint : r.tryPrint a = .ok f) (hsize : f.pathString.utf8ByteSize ≤ Http.Uri.maxBytes) :
    r.audit a = .ok () := by
  obtain ⟨chain, hspells⟩ := spells_of_tryPrint hspellable hprint
  exact audit_of_isOrderly hr hspells (hsound chain hspells.mem_chains) hsize

/-- Among the routes without a body those pass their audit that are spelled with a short target. -/
theorem audit_eq_ok_iff_spellable [DecidableEq α] (hr : r.root.IsOrderly)
    (hsound : ∀ chain ∈ r.root.chains, IsSound chain) (ha : r.root.usesBody a = false) :
    r.audit a = .ok () ↔ r.root.Spellable a ∧
      ∃ f, r.tryPrint a = .ok f ∧ f.pathString.utf8ByteSize ≤ Http.Uri.maxBytes := by
  constructor
  · intro h
    obtain ⟨f, again, hprint, hagain, hresolve⟩ := resolve_of_audit h
    have hwritten := print_root_of_tryPrint hprint
    have hbare := Matcher.isBare_print ha
    have hkeeps := Matcher.print_keeps r.root a .empty
    rw [hwritten] at hbare hkeeps
    obtain ⟨_, _, hspells, -⟩ := spells_of_resolve hr (isIncoming_of_reread hbare hagain) hresolve
    refine ⟨hspells.spellable, f, hprint, ?_⟩
    rw [← Nat.not_lt]
    intro hlong
    rw [reread_of_lt (hkeeps.1 Query.wellFormed_empty) hlong] at hagain
    cases hagain
  · rintro ⟨hspellable, f, hprint, hsize⟩
    exact audit_of_spellable hr hsound hspellable hprint hsize

/-- A route without a body is sent as a request that is resolved to it, if it passes its audit. -/
theorem resolve_request [DecidableEq α] (hr : r.root.IsOrderly)
    (hsound : ∀ chain ∈ r.root.chains, IsSound chain) (ha : r.root.usesBody a = false)
    (h : r.audit a = .ok ()) :
    ∃ request, r.request a = .ok (some request) ∧ r.resolve (.ofRequest request) = .ok a := by
  obtain ⟨hspellable, f, hprint, hsize⟩ := (audit_eq_ok_iff_spellable hr hsound ha).1 h
  obtain ⟨chain, hspells⟩ := spells_of_tryPrint hspellable hprint
  have hs := hsound chain hspells.mem_chains
  have hfits := hspells.fits
  have hbare := Matcher.isBare_print ha
  rw [hspells.print] at hbare
  obtain ⟨request, hsent, hreceived⟩ := Cursor.ofRequest_of_isBare hbare hfits.wellFormed
    (hspells.ne_empty_of_mem_path hr.composable) hfits.malformed hsize
  refine ⟨request, ?_, ?_⟩
  · rw [Router.request, (print_of_tryPrint hprint).1]
    exact congrArg Except.ok hsent
  · rw [hreceived]
    exact resolve_of_spells hspells hr.composable hs (hfits.carries hs) hfits.malformed
      (fun _ => hbare.body) (Matcher.prevails_of_isExclusive hr.exclusive a _)

end Router

end Signpost

import Signpost.Proofs.Matcher.Alike
import Signpost.Proofs.Router.Request

/-!
# Audits and real requests

An audit resolves what was written with the body that was written. A request with an empty body is
received without one, so the two differ where a matcher tells an empty body from none.

* `Matcher.SparesEmptyBody`: a matcher that does not do so with the body of a cursor.
* `Router.resolve_received`: a cursor is resolved to the same route when it is received, if the matchers
  that come to its body are such.
* `Router.resolve_request_of_audit`: the request of an audited route is resolved to that route, unless an
  empty body comes to the matcher of raw bodies.
-/

namespace Signpost

/-- Only an empty body is lost. -/
theorem Cursor.received_of_ne {d : Cursor} (h : d.body ≠ some []) : d.received = d := by
  obtain ⟨method?, path, query, body, contentType, malformed⟩ := d
  rcases body with _ | _ | _
  · rfl
  · exact absurd rfl h
  · rfl

namespace Matcher

variable {α : Type}

/-- The matcher reads an empty body as it reads none, or refuses both. -/
def IgnoresEmptyBody : {α : Type} → Matcher α → Prop
  | _, json codec => codec.decode? [] = none
  | _, rawBody => False
  | _, _ => True

/-- An empty body of the cursor is one that the matcher ignores. -/
def SparesEmptyBody {α : Type} (m : Matcher α) (d : Cursor) : Prop :=
  d.body = some [] → m.IgnoresEmptyBody

/-- A body that a matcher ignores when it is empty is read alike where it is missing. -/
theorem alike_received {m : Matcher α} (hm : m.isBody = true) {d : Cursor} (hd : d.body = some [])
    (hignores : m.IgnoresEmptyBody) :
    Alike (fun _ _ => True) (fun d e => e = d.received) (m.parse d) (m.parse d.received) := by
  have hreceived : d.received.body = none := by
    rw [Cursor.received, hd]
    rfl
  have hcheck (mediaType : Http.MediaType) :
      checkContentType mediaType d.received = checkContentType mediaType d := rfl
  cases m with
  | form codec =>
    rw [parse, parse, parseBody, parseBody, hcheck, hd, hreceived, Option.elim_some, Option.elim_none]
    split
    · exact .error trivial
    · exact .error trivial
    · split
      · exact .ok _ rfl
      · exact .error trivial
  | json codec =>
    have hdecode : codec.decode? [] = none := hignores
    rw [parse, parse, parseBody, parseBody, hcheck, hd, hreceived, Option.elim_some, Option.elim_none]
    rcases checkContentType .json d with e | _
    · exact .error trivial
    · dsimp only
      rw [hdecode]
      exact .error trivial
  | rawBody => exact hignores.elim
  | _ => cases hm

/-- A cursor and what is received of it are read alike, up to the errors of bodies. -/
theorem isResemblance_received :
    IsResemblance SparesEmptyBody (fun _ _ => True) fun d e => e = d.received where
  refl _ := trivial
  path h := by rw [h, Cursor.received]
  method h := by rw [h]; rfl
  withPath h path := by rw [h]; rfl
  field hm d e _ h := by
    subst h
    exact alike_of_field (fun _ => trivial) hm rfl rfl rfl
  body hm d e hspares h := by
    subst h
    by_cases hd : d.body = some []
    · exact alike_received hm hd (hspares hd)
    · rw [Cursor.received_of_ne hd]
      exact alike_of_body (fun _ => trivial) hm rfl rfl rfl

end Matcher

/-! ## Requests of audited routes -/

namespace Router

variable {α : Type} {r : Router α} {a : α}

/-- What is received of a cursor is resolved to the route of the cursor, unless an empty body comes to a
matcher that tells it from none. -/
theorem resolve_received {d : Cursor} (hspares : d.body = some [] → r.root.Along Matcher.SparesEmptyBody d)
    (h : r.resolve d = .ok a) : r.resolve d.received = .ok a := by
  by_cases hd : d.body = some []
  · obtain ⟨hm, rest, hparse, hpath, hbody⟩ := resolve_eq_ok_iff.1 h
    have halike := Matcher.parse_alike Matcher.isResemblance_received (hspares hd) rfl
    rw [hparse] at halike
    generalize hread : r.root.parse d.received = o at halike
    cases halike with
    | ok _ hrest =>
      subst hrest
      refine resolve_of_parse hm hread hpath ?_
      obtain ⟨_, _, _, body, _, _⟩ := rest
      rcases body with _ | _ | _
      · rfl
      · rfl
      · cases hbody
  · rw [Cursor.received_of_ne hd]
    exact h

/-- A router whose matchers all ignore empty bodies resolves the requests of all routes that pass their
audit. -/
theorem exists_request_of_throughout [DecidableEq α] (hroot : r.root.Throughout Matcher.IgnoresEmptyBody)
    (h : r.audit a = .ok ()) :
    ∃ request, r.request a = .ok (some request) ∧ r.resolve (.ofRequest request) = .ok a := by
  obtain ⟨_, again, request, -, -, hresolve, hsent, hreceived⟩ := exists_request_of_audit h
  have hspares : r.root.Along Matcher.SparesEmptyBody again :=
    Matcher.along_of_throughout (P := Matcher.SparesEmptyBody) (fun hm _ _ => hm) hroot again
  refine ⟨request, hsent, ?_⟩
  rw [hreceived]
  exact resolve_received (fun _ => hspares) hresolve

theorem body_of_reread {f again : Cursor} (h : reread f = .ok again) : again.body = f.body := by
  unfold reread at h
  split at h
  · cases h
  · cases h
    rfl

/-- A route that passes its audit can be sent. Its request is resolved to it, unless the written body is
empty and comes to a matcher that tells it from none. -/
theorem resolve_request_of_audit [DecidableEq α] (r : Router α) (a : α) (h : r.audit a = .ok ()) :
    ∃ f again request, r.tryPrint a = .ok f ∧ reread f = .ok again ∧
      r.request a = .ok (some request) ∧
      ((f.body = some [] → r.root.Along Matcher.SparesEmptyBody again) →
        r.resolve (.ofRequest request) = .ok a) := by
  obtain ⟨f, again, request, hprint, hagain, hresolve, hsent, hreceived⟩ := exists_request_of_audit h
  refine ⟨f, again, request, hprint, hagain, hsent, fun hspares => ?_⟩
  rw [← body_of_reread hagain] at hspares
  rw [hreceived]
  exact resolve_received hspares hresolve

/-- A router of raw bodies. -/
def rawRouter : Router Bytes :=
  ⟨.rawBody, { secure := true, authority := { host := "tea.example" }, path := "/" }⟩

/-- A body that is not empty is sent and received as it is. -/
theorem resolve_request_rawBody : rawRouter.audit [0, 255] = .ok () ∧
    ∃ request, rawRouter.request [0, 255] = .ok (some request) ∧
      rawRouter.resolve (.ofRequest request) = .ok [0, 255] := by
  have haudit : rawRouter.audit [0, 255] = .ok () := by decide +kernel
  obtain ⟨f, again, request, hprint, -, hsent, hresolve⟩ :=
    resolve_request_of_audit rawRouter [0, 255] haudit
  refine ⟨haudit, request, hsent, hresolve fun hempty => ?_⟩
  cases hprint
  cases hempty

/-- The empty raw body passes its audit, and is missing from its request. -/
theorem resolve_request_emptyBody : rawRouter.audit [] = .ok () ∧
    ∃ request, rawRouter.request [] = .ok (some request) ∧
      rawRouter.resolve (.ofRequest request) = .error .missingBody := by
  have hsent : rawRouter.request [] = .ok (some { method := .get, uri := { path := "/" } }) := by
    decide +kernel
  exact ⟨by decide +kernel, _, hsent, by decide +kernel⟩

end Router

end Signpost

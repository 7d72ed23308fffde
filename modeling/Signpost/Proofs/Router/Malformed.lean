import Signpost.Proofs.Cursor.History
import Signpost.Proofs.Text.Utf8
import Signpost.Router

/-!
# Malformed requests

A request whose path cannot be split becomes a cursor without a path, which a root matcher could take for
the home page. Its mark keeps it from every router.

* `readPath_eq_error_iff`: a path cannot be split when some piece of it stands for bytes that are not the
  encoding of any text.
* `resolve_of_malformed`: no router reads a marked cursor.
* `ofRequest_malformed`: which requests are marked, that nothing drops the mark, and that the other requests
  are read as their uri is.
-/

namespace Signpost

/-! ## Paths that cannot be split -/

theorem exists_of_mapM_eq_ok {α β ε : Type} {f : α → Except ε β} {xs : List α} {ys : List β}
    (h : xs.mapM f = .ok ys) : ∀ x ∈ xs, ∃ y, f x = .ok y := by
  induction xs generalizing ys with
  | nil => simp
  | cons x xs ih =>
    rw [List.mapM_cons] at h
    rcases hx : f x with e | y
    · rw [hx] at h
      cases h
    · rcases hxs : xs.mapM f with e | ys'
      · rw [hx, hxs] at h
        cases h
      · exact List.forall_mem_cons.2 ⟨⟨y, hx⟩, ih hxs⟩

theorem exists_of_mapM_eq_error {α β ε : Type} {f : α → Except ε β} {xs : List α} {e : ε}
    (h : xs.mapM f = .error e) : ∃ x ∈ xs, f x = .error e := by
  induction xs with
  | nil => cases h
  | cons x xs ih =>
    rw [List.mapM_cons] at h
    rcases hx : f x with e' | y
    · rw [hx] at h
      cases h
      exact ⟨x, List.mem_cons_self, hx⟩
    · rcases hxs : xs.mapM f with e' | ys
      · rw [hx, hxs] at h
        cases h
        obtain ⟨other, hmem, ho⟩ := ih hxs
        exact ⟨other, List.mem_cons_of_mem _ hmem, ho⟩
      · rw [hx, hxs] at h
        cases h

namespace Cursor

/-- A piece of a path is a segment exactly if its unescaped bytes are the encoding of a text. -/
theorem exists_readSegment_iff (raw : List Char) :
    (∃ segment, readSegment raw = .ok segment) ↔
      ∃ cs, Percent.decode (Utf8.encode raw) = Utf8.encode cs := by
  unfold readSegment Percent.decodeText?
  rcases hcs : Utf8.decode? (Percent.decode (Utf8.encode raw)) with _ | cs
  · refine iff_of_false (by simp) ?_
    rintro ⟨cs, h⟩
    rw [h, Utf8.decode?_encode] at hcs
    cases hcs
  · exact iff_of_true ⟨_, rfl⟩ ⟨cs, Utf8.decode?_eq_some_iff.1 hcs⟩

theorem readPath_eq_error_iff (path : String) :
    (∃ e, readPath path = .error e) ↔ ∃ piece ∈ pieces (· = '/') path.toList, piece ≠ [] ∧
      ¬∃ cs, Percent.decode (Utf8.encode piece) = Utf8.encode cs := by
  unfold readPath
  constructor
  · rintro ⟨e, h⟩
    obtain ⟨piece, hmem, he⟩ := exists_of_mapM_eq_error h
    obtain ⟨hmem, hne⟩ := List.mem_filter.1 hmem
    refine ⟨piece, hmem, by simpa using hne, fun hcs => ?_⟩
    obtain ⟨segment, hsegment⟩ := (exists_readSegment_iff piece).2 hcs
    rw [hsegment] at he
    cases he
  · rintro ⟨piece, hmem, hne, hcs⟩
    rcases h : ((pieces (· = '/') path.toList).filter (· ≠ [])).mapM readSegment with e | segments
    · exact ⟨e, rfl⟩
    · have hmem : piece ∈ (pieces (· = '/') path.toList).filter (· ≠ []) :=
        List.mem_filter.2 ⟨hmem, by simpa using hne⟩
      exact absurd ((exists_readSegment_iff piece).1 (exists_of_mapM_eq_ok h piece hmem)) hcs

theorem isSome_malformed_ofRequest_iff (r : Http.Request) :
    (ofRequest r).malformed.isSome = true ↔ ∃ e, readPath r.uri.path = .error e := by
  unfold ofRequest ofParts
  rcases readPath r.uri.path with e | path
  · simp
  · simp

/-- A request that is not marked is read as its parts are. -/
theorem ofParts_of_malformed_eq_none {r : Http.Request} (h : (ofRequest r).malformed = none) :
    ∃ d, ofParts r.method r.uri = .ok d ∧ (ofRequest r).method? = d.method? ∧
      (ofRequest r).path = d.path ∧ (ofRequest r).query = d.query := by
  unfold ofRequest at h ⊢
  rcases hparts : ofParts r.method r.uri with e | d
  · rw [hparts] at h
    cases h
  · exact ⟨d, rfl, rfl, rfl, rfl⟩

end Cursor

/-! ## Routers -/

variable {α : Type}

/-- No router reads a marked cursor. -/
theorem Router.resolve_of_malformed (router : Router α) {d : Cursor} {cause : UriError}
    (h : d.malformed = some cause) :
    router.resolve d = .error (.malformedRequest cause) ∧ router.resolve? d = none := by
  have hresolve : router.resolve d = .error (.malformedRequest cause) := by rw [Router.resolve, h]
  exact ⟨hresolve, by rw [Router.resolve?, hresolve]; rfl⟩

namespace Cursor

/-- A request is marked exactly if some piece of its path stands for bytes that encode no text. A marked
cursor stays marked whatever is done to it, and no router reads it. A request that is not marked has the
method, path and query that are read from its uri. -/
theorem ofRequest_malformed (r : Http.Request) :
    ((ofRequest r).malformed.isSome = true ↔ ∃ piece ∈ pieces (· = '/') r.uri.path.toList,
        piece ≠ [] ∧ ¬∃ cs, Percent.decode (Utf8.encode piece) = Utf8.encode cs) ∧
      (∀ (d : Cursor) (cause : UriError), d.malformed = some cause →
        ∀ (log : List Query.Change) (e : Cursor), d.Leads log e → e.malformed = some cause ∧
          ∀ (α : Type) (router : Router α),
            router.resolve e = .error (.malformedRequest cause) ∧ router.resolve? e = none) ∧
      ((ofRequest r).malformed = none → ∃ d, ofParts r.method r.uri = .ok d ∧
        (∀ text, Http.Uri.ofText? text = some r.uri → ofUri r.method text = .ok d) ∧
        (ofRequest r).method? = d.method? ∧ (ofRequest r).path = d.path ∧
        (ofRequest r).query = d.query) := by
  refine ⟨?_, fun d cause hd log e h => ?_, fun h => ?_⟩
  · rw [isSome_malformed_ofRequest_iff, readPath_eq_error_iff]
  · have he : e.malformed = some cause := h.malformed_eq.trans hd
    exact ⟨he, fun _ router => router.resolve_of_malformed he⟩
  · obtain ⟨d, hparts, hsame⟩ := ofParts_of_malformed_eq_none h
    refine ⟨d, hparts, fun text htext => ?_, hsame⟩
    rw [Cursor.ofUri, htext]
    exact hparts

/-- A request in whose path a slash stands between the bytes of one character. -/
def dividedRequest : Http.Request := { method := .get, uri := { path := "/%E2%82/%AC" } }

/-- The request is marked, and a matcher of the empty path does not read it after more is written. -/
theorem malformed_dividedRequest :
    (ofRequest dividedRequest).malformed = some (.invalidSegment "%E2%82") ∧
      (∃ piece ∈ pieces (· = '/') dividedRequest.uri.path.toList,
        piece ≠ [] ∧ ¬∃ cs, Percent.decode (Utf8.encode piece) = Utf8.encode cs) ∧
      (∀ base : BaseUrl, Router.resolve? ⟨Matcher.start, base⟩
        (((ofRequest dividedRequest).merge (.empty)).setMethod .post) = none) ∧
      (ofRequest { dividedRequest with uri := { path := "/%E2%82%AC" } }).path = ["€"] := by
  have hmark : (ofRequest dividedRequest).malformed = some (.invalidSegment "%E2%82") := by
    decide +kernel
  have hmarked := ofRequest_malformed dividedRequest
  refine ⟨hmark, hmarked.1.1 (by rw [hmark]; rfl), fun base => ?_, by decide +kernel⟩
  exact ((hmarked.2.1 _ _ hmark _ _ ((Leads.refl.step (.merge _ .empty)).step (.setMethod _ .post))).2
    Unit ⟨Matcher.start, base⟩).2

end Cursor

end Signpost

import Signpost.Proofs.Cursor.Reachable
import Signpost.Proofs.Http.MediaType

/-!
# Cursors sent as requests

A cursor is sent as a request and received again.

* `toRequest?_eq_some_iff`: which cursors can be sent, and as which request.
* `ofRequest_of_toRequest?`: what is received is what is read from the written target, with the media type
  and the body that were sent. A media type is received if its text is visible ASCII, and a body if it is
  not empty.
* `ofRequest_of_isReachable`: which reachable cursors can be sent, and which of their parts are received.
-/

namespace Signpost.Cursor

/-! ## Sending -/

/-- The text of the media type, if there is one, may stand in a header. -/
def HasHeader (d : Cursor) : Prop := ∀ t ∈ d.contentType, Http.Request.isHeaderValue t.text = true

theorem all_isHeaderValue_iff (d : Cursor) :
    (d.contentType.map (·.text)).all Http.Request.isHeaderValue = true ↔ d.HasHeader := by
  unfold HasHeader
  cases d.contentType <;> simp

/-- A cursor is sent as its method, its target, the text of its media type and its body, if the target is
a uri and the text may stand in a header. -/
theorem toRequest?_eq_some_iff {d : Cursor} {r : Http.Request} :
    d.toRequest? = some r ↔ d.HasHeader ∧ ∃ uri, Http.Uri.ofText? d.pathString = some uri ∧
      r = ⟨d.method, uri, d.contentType.map (·.text), d.body.getD []⟩ := by
  rw [← all_isHeaderValue_iff, toRequest?, Http.Request.of?]
  rcases Http.Uri.ofText? d.pathString with _ | uri
  · simp
  · by_cases h : (d.contentType.map (·.text)).all Http.Request.isHeaderValue = true
    · simp [h, eq_comm]
    · simp [h]

/-- A cursor can be sent exactly if its target is not too long and its media type may stand in a header. -/
theorem exists_toRequest?_iff (d : Cursor) :
    (∃ r, d.toRequest? = some r) ↔
      d.pathString.utf8ByteSize ≤ Http.Uri.maxBytes ∧ d.HasHeader := by
  simp only [toRequest?_eq_some_iff, ofText?_pathString]
  constructor
  · intro ⟨r, hheader, uri, huri, _⟩
    by_cases hsize : d.pathString.utf8ByteSize ≤ Http.Uri.maxBytes
    · exact ⟨hsize, hheader⟩
    · rw [if_neg hsize] at huri
      cases huri
  · intro ⟨hsize, hheader⟩
    rw [if_pos hsize]
    exact ⟨_, hheader, _, rfl, rfl⟩

/-! ## Receiving -/

/-- The media type that is received where one was sent in a header. -/
def receivedType? (t : Http.MediaType) : Option Http.MediaType :=
  if t.text.toList.all Http.Request.isVisible then Http.MediaType.ofText? t.text else none

theorem mediaType?_of_toRequest? {d : Cursor} {r : Http.Request} (h : d.toRequest? = some r) :
    r.mediaType? = d.contentType.bind receivedType? := by
  obtain ⟨-, uri, -, rfl⟩ := toRequest?_eq_some_iff.1 h
  unfold Http.Request.mediaType?
  cases d.contentType <;> rfl

/-- What is received of a sent cursor is read from its target, apart from the media type and the body. -/
theorem ofRequest_of_toRequest? {d again : Cursor} {r : Http.Request} (h : d.toRequest? = some r)
    (hagain : ofUri d.method d.pathString = .ok again) :
    ofRequest r = { again with
      contentType := d.contentType.bind receivedType?, body := d.body.filter (· ≠ []) } := by
  have htype := mediaType?_of_toRequest? h
  obtain ⟨-, uri, huri, rfl⟩ := toRequest?_eq_some_iff.1 h
  have hparts : ofParts d.method uri = .ok again := by rwa [ofUri, huri] at hagain
  have hbody : (if (d.body.getD []).isEmpty then none else some (d.body.getD [])) =
      d.body.filter (· ≠ []) := by
    rcases d.body with _ | _ | _ <;> rfl
  unfold ofRequest
  simp only [hparts, htype, hbody]

/-- A cursor can be sent exactly if its target is not too long and the text of its media type may stand in a
header. It is then received with all its parts, apart from empty segments, an empty body and a media type
whose text is not all visible ASCII. -/
theorem ofRequest_of_isReachable {d : Cursor} (hd : d.IsReachable) :
    ((∃ r, d.toRequest? = some r) ↔ d.pathString.utf8ByteSize ≤ Http.Uri.maxBytes ∧
        ∀ t ∈ d.contentType, Http.Request.isHeaderValue t.text = true) ∧
      ∀ r, d.toRequest? = some r → ∃ contentType,
        ofRequest r = { method? := some d.method, path := d.path.filter (· ≠ ""), query := d.query,
                        body := d.body.filter (· ≠ []), contentType, malformed := none } ∧
          (d.contentType = none → contentType = none) ∧
          ∀ t, d.contentType = some t →
            (t.text.toList.all Http.Request.isVisible = true →
              contentType = Http.MediaType.ofText? t.text ∧
                ((∃ text, Http.MediaType.ofText? text = some t) → contentType = some t)) ∧
            (t.text.toList.all Http.Request.isVisible = false → contentType = none) := by
  refine ⟨exists_toRequest?_iff d, ?_⟩
  intro r hr
  have hsize := ((exists_toRequest?_iff d).1 ⟨r, hr⟩).1
  have hagain := ofUri_pathString d.method hd.wellFormed
  rw [if_pos hsize] at hagain
  refine ⟨d.contentType.bind receivedType?, ofRequest_of_toRequest? hr hagain, ?_, ?_⟩
  · intro hnone
    rw [hnone, Option.bind_none]
  · intro t ht
    rw [ht, Option.bind_some, receivedType?]
    constructor
    · intro hvisible
      rw [if_pos hvisible]
      refine ⟨rfl, ?_⟩
      intro ⟨text, hread⟩
      exact Http.MediaType.ofText?_text hread
    · intro hhidden
      rw [hhidden]
      rfl

/-- A cursor with all parts, an empty segment and a key of two values. -/
def fullCursor : Cursor where
  method? := some .post
  path := ["gifts", "", "a/b č"]
  query := ⟨[("tag", ["ü", "b c"]), ("", ["&"])]⟩
  body := some [0, 255]
  contentType := some { essence := "text/plain", parameters := "; charset=utf-8; x=\"A b\"" }

theorem isReachable_fullCursor : fullCursor.IsReachable :=
  ((((((((IsReachable.empty.setMethod .post).pushSegment "gifts").pushSegment "").pushSegment "a/b č").pushQuery
    "tag" "ü").pushQuery "" "&").pushQuery "tag" "b c").setBody [0, 255]).setContentType
      { essence := "text/plain", parameters := "; charset=utf-8; x=\"A b\"" }

/-- Only the empty segment is lost. The media type was read from a text in other cases. -/
theorem ofRequest_fullCursor : fullCursor.IsReachable ∧
    fullCursor.contentType = Http.MediaType.ofText? "Text/Plain; Charset=UTF-8; X=\"A b\"" ∧
    ∃ r, fullCursor.toRequest? = some r ∧
      ofRequest r = { fullCursor with path := ["gifts", "a/b č"] } := by
  have htype : fullCursor.contentType =
      Http.MediaType.ofText? "Text/Plain; Charset=UTF-8; X=\"A b\"" := by
    decide +kernel
  obtain ⟨hsent, hreceived⟩ := ofRequest_of_isReachable isReachable_fullCursor
  obtain ⟨r, hr⟩ := hsent.2 ⟨by decide +kernel, by decide +kernel⟩
  obtain ⟨contentType, hparts, -, hsome⟩ := hreceived r hr
  have hsame := ((hsome _ rfl).1 (by decide +kernel)).2 ⟨_, htype.symm⟩
  refine ⟨isReachable_fullCursor, htype, r, hr, ?_⟩
  rw [hparts, hsame]
  rfl

/-- A cursor whose media type has a parameter beyond ASCII. -/
def accentedCursor : Cursor :=
  (Cursor.empty.setMethod .get).setContentType { essence := "text/plain", parameters := "; x=\"é\"" }

/-- A media type that is read from its own text, and that is sent, is not received. -/
theorem ofRequest_accentedCursor : accentedCursor.IsReachable ∧
    ∃ t, accentedCursor.contentType = some t ∧ Http.MediaType.ofText? t.text = some t ∧
      ∃ r, accentedCursor.toRequest? = some r ∧ (ofRequest r).contentType = none := by
  refine ⟨(IsReachable.empty.setMethod .get).setContentType _, _, rfl, by decide +kernel, ?_⟩
  exact ⟨{ method := .get, uri := { path := "/" }, contentType := some "text/plain; x=\"é\"" },
    by decide +kernel, by decide +kernel⟩

end Signpost.Cursor

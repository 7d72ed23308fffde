import Signpost.Cursor.Basic
import Signpost.Proofs.Query.Merge

/-!
# Adding fragments to cursors

`Cursor.merge` adds a written fragment to a cursor. A write onto a merged cursor is a write onto the
fragment, merged afterwards.

* `merge_assoc`, `merge_empty`, `empty_merge`: fragments with a well-formed query are a monoid.
* `merge_pushSegment`, `merge_pushQuery`, `merge_setMethod`, `merge_setBody`, `merge_setContentType`:
  writes pass through a merge.
-/

namespace Signpost.Cursor

/-! ## The monoid -/

theorem merge_empty (d : Cursor) : d.merge empty = d := by
  obtain ⟨method?, path, query, body, contentType, malformed⟩ := d
  simp only [merge, empty, List.append_nil, Option.none_or]
  rfl

theorem empty_merge {f : Cursor} (hq : f.query.WellFormed) (hm : f.malformed = none) :
    empty.merge f = f := by
  obtain ⟨method?, path, query, body, contentType, malformed⟩ := f
  subst hm
  have hq' : Query.merge {} query = query := Query.empty_merge hq
  simp [merge, empty, hq']

theorem merge_assoc (d : Cursor) {f : Cursor} (hf : f.query.WellFormed) (g : Cursor) :
    (d.merge f).merge g = d.merge (f.merge g) := by
  simp [merge, Query.merge_assoc d.query hf, Option.or_assoc]

/-! ## Writes -/

theorem merge_pushSegment (d f : Cursor) (segment : String) :
    d.merge (f.pushSegment segment) = (d.merge f).pushSegment segment := by
  simp [merge, pushSegment]

theorem merge_pushQuery (d : Cursor) {f : Cursor} (hf : f.query.WellFormed) (key value : String) :
    d.merge (f.pushQuery key value) = (d.merge f).pushQuery key value := by
  simp [merge, pushQuery, Query.merge_push d.query hf]

theorem merge_setMethod (d f : Cursor) (method : Http.Method) :
    d.merge (f.setMethod method) = (d.merge f).setMethod method := by
  simp [merge, setMethod]

theorem merge_setBody (d f : Cursor) (body : Bytes) :
    d.merge (f.setBody body) = (d.merge f).setBody body := by
  simp [merge, setBody]

theorem merge_setContentType (d f : Cursor) (contentType : Http.MediaType) :
    d.merge (f.setContentType contentType) = (d.merge f).setContentType contentType := by
  simp [merge, setContentType]

end Signpost.Cursor

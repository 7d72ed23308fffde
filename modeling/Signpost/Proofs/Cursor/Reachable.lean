import Signpost.Cursor.Exchange
import Signpost.Proofs.Cursor.Merge
import Signpost.Proofs.Cursor.Target

/-!
# Reachable cursors

A cursor starts empty, or is read from a uri or from a request, and is then changed by its operations.

* `Cursor.IsReachable`: the cursors that come about in this way.
* `IsReachable.wellFormed`: their queries are well-formed.
* `ofUri_pathString_eq_ok_iff`: which cursor is read from the written target of a reachable one, and when.
* `merge_monoid`: reachable cursors without a malformed mark are a monoid under merging.
-/

namespace Signpost.Cursor

/-- The cursor was made by the operations of cursors. -/
inductive IsReachable : Cursor → Prop
  | empty : IsReachable .empty
  | ofUri {m : Http.Method} {text : String} {d : Cursor} (h : ofUri m text = .ok d) : IsReachable d
  | ofRequest (r : Http.Request) : IsReachable (ofRequest r)
  | setMethod {d : Cursor} (h : IsReachable d) (m : Http.Method) : IsReachable (d.setMethod m)
  | popSegment {d : Cursor} (h : IsReachable d) : IsReachable d.popSegment.2
  | pushSegment {d : Cursor} (h : IsReachable d) (segment : String) : IsReachable (d.pushSegment segment)
  | popQuery {d : Cursor} (h : IsReachable d) (key : String) : IsReachable (d.popQuery key).2
  | pushQuery {d : Cursor} (h : IsReachable d) (key value : String) : IsReachable (d.pushQuery key value)
  | takeBody {d : Cursor} (h : IsReachable d) : IsReachable d.takeBody.2
  | setBody {d : Cursor} (h : IsReachable d) (body : Bytes) : IsReachable (d.setBody body)
  | setContentType {d : Cursor} (h : IsReachable d) (contentType : Http.MediaType) :
      IsReachable (d.setContentType contentType)
  | merge {d f : Cursor} (h : IsReachable d) (hf : IsReachable f) : IsReachable (d.merge f)

/-! ## Queries -/

theorem wellFormed_of_ofParts {m : Http.Method} {uri : Http.Uri} {d : Cursor}
    (h : ofParts m uri = .ok d) : d.query.WellFormed := by
  unfold ofParts at h
  split at h
  · cases h
    exact Query.wellFormed_ofPairs _
  · cases h

theorem wellFormed_ofRequest (r : Http.Request) : (ofRequest r).query.WellFormed := by
  unfold ofRequest
  rcases h : ofParts r.method r.uri with e | d
  · exact Query.wellFormed_empty
  · show d.query.WellFormed
    exact wellFormed_of_ofParts h

/-- The query of a reachable cursor is well-formed. -/
theorem IsReachable.wellFormed {d : Cursor} (h : d.IsReachable) : d.query.WellFormed := by
  induction h with
  | empty => exact Query.wellFormed_empty
  | ofUri h =>
    obtain ⟨uri, -, hparts⟩ := ofParts_of_ofUri h
    exact wellFormed_of_ofParts hparts
  | ofRequest r => exact wellFormed_ofRequest r
  | popQuery _ key ih => exact ih.erase key
  | pushQuery _ key value ih => exact ih.push key value
  | merge _ _ ih _ => exact ih.merge _
  | setMethod _ _ ih => exact ih
  | popSegment _ ih => exact ih
  | pushSegment _ _ ih => exact ih
  | takeBody _ ih => exact ih
  | setBody _ _ ih => exact ih
  | setContentType _ _ ih => exact ih

/-! ## Targets -/

/-- A target that was written for a reachable cursor is read exactly if it is not too long for a uri, and
then as the segments that are not empty and as the same query, with nothing else but the method. -/
theorem ofUri_pathString_eq_ok_iff {d : Cursor} (hd : d.IsReachable) (m : Http.Method) (again : Cursor) :
    ofUri m d.pathString = .ok again ↔ d.pathString.utf8ByteSize ≤ Http.Uri.maxBytes ∧
      again = { method? := some m, path := d.path.filter (· ≠ ""), query := d.query, body := none,
                contentType := none, malformed := none } := by
  rw [ofUri_pathString m hd.wellFormed]
  split_ifs with hsize
  · rw [Except.ok.injEq, eq_comm]
    exact (and_iff_right hsize).symm
  · constructor
    · nofun
    · exact fun h => absurd h.1 hsize

/-- A cursor with separators and escapes in its segments and fields, and with empty ones. -/
def markedCursor : Cursor :=
  ((((Cursor.empty.pushSegment "a/b?%2F").pushSegment "").pushSegment "č +").pushQuery "q=&" "1+1 = 2").pushQuery
    "" ""

/-- Only the empty segment is lost. -/
theorem ofUri_pathString_markedCursor :
    markedCursor.IsReachable ∧ ofUri .post markedCursor.pathString =
      .ok { markedCursor with method? := some .post, path := ["a/b?%2F", "č +"] } := by
  have hd : markedCursor.IsReachable :=
    ((((IsReachable.empty.pushSegment _).pushSegment _).pushSegment _).pushQuery _ _).pushQuery _ _
  exact ⟨hd, (ofUri_pathString_eq_ok_iff hd .post _).2 ⟨by decide +kernel, rfl⟩⟩

/-! ## Merges -/

/-- Reachable cursors without a malformed mark are a monoid under merging, with the empty cursor as its
identity. Groups of the query and the values in them keep one order, however the merges are bracketed.
The mark of the first cursor is the only one that a merge keeps, so the others may have any. -/
theorem merge_monoid {a b : Cursor} (ha : a.IsReachable) (hmark : a.malformed = none) (hb : b.IsReachable)
    (c : Cursor) :
    ((a.merge b).IsReachable ∧ (a.merge b).malformed = none) ∧
      (a.merge b).merge c = a.merge (b.merge c) ∧ empty.merge a = a ∧ a.merge empty = a := by
  refine ⟨⟨ha.merge hb, hmark⟩, ?_, ?_, ?_⟩
  · exact merge_assoc a hb.wellFormed c
  · exact empty_merge ha.wellFormed hmark
  · exact merge_empty a

/-- A path with a tag. -/
def taggedShop : Cursor := (empty.pushSegment "shop").pushQuery "tag" "tea"

/-- A page, with a tag behind it. -/
def taggedPage : Cursor := ((empty.setMethod .post).pushQuery "page" "2").pushQuery "tag" "mug"

/-- A tag, with a page behind it. -/
def pagedTag : Cursor := ((empty.pushSegment "mugs").pushQuery "tag" "jug").pushQuery "page" "3"

/-- Whichever two are merged first, the tags stand before the pages, as in the first cursor. The merge of the
last two has the pages first. -/
theorem merge_taggedPages :
    (taggedShop.merge taggedPage).merge pagedTag = taggedShop.merge (taggedPage.merge pagedTag) ∧
      taggedShop.merge (taggedPage.merge pagedTag) =
        { method? := some .post, path := ["shop", "mugs"],
          query := ⟨[("tag", ["tea", "mug", "jug"]), ("page", ["2", "3"])]⟩ } ∧
      (taggedPage.merge pagedTag).query = ⟨[("page", ["2", "3"]), ("tag", ["mug", "jug"])]⟩ ∧
      empty.merge taggedShop = taggedShop ∧ taggedShop.merge empty = taggedShop := by
  have hshop : taggedShop.IsReachable := (IsReachable.empty.pushSegment _).pushQuery _ _
  have hpage : taggedPage.IsReachable := ((IsReachable.empty.setMethod _).pushQuery _ _).pushQuery _ _
  obtain ⟨-, hassoc, hleft, hright⟩ := merge_monoid hshop rfl hpage pagedTag
  exact ⟨hassoc, by decide, by decide, hleft, hright⟩

end Signpost.Cursor

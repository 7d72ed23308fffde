import Signpost.Proofs.Matcher.Changes

/-!
# Histories of cursors

What happens to a cursor after it was made, with the log of what happens to its query.

* `Cursor.IsStart`: how a cursor is made. `Cursor.IsOperation`: one operation on it, one of its own or
  a reading or writing of any matcher. `Cursor.Leads`: any sequence of operations.
* `Leads.query_eq`, `Leads.malformed_eq`: what any sequence of operations does to the query and to the mark
  of a malformed cursor, by induction on the sequence.
* `IsStart.query_of_leads`: the query shows what its log leaves.
-/

namespace Signpost.Cursor

open Query (Change additions remaining valuesAdded keysAdded)

/-- The pairs of key and value in the query of a uri. -/
def queryFields (query : Option String) : List (String × String) :=
  Urlencoded.parse ((query.getD "").toList)

/-- A cursor is made empty, of a uri or of a request. The log has the fields of the query, and none for
a request whose path cannot be split. -/
inductive IsStart : List Change → Cursor → Prop
  | empty : IsStart [] .empty
  | ofUri {m : Http.Method} {text : String} {uri : Http.Uri} {d : Cursor}
      (huri : Http.Uri.ofText? text = some uri) (h : ofUri m text = .ok d) :
      IsStart (additions (queryFields uri.query)) d
  | ofRequest (r : Http.Request) :
      IsStart (if (ofRequest r).malformed = none then additions (queryFields r.uri.query) else [])
        (ofRequest r)

/-- One operation makes of the first cursor the second, with these changes of the query. -/
inductive IsOperation : Cursor → List Change → Cursor → Prop
  | setMethod (d : Cursor) (m : Http.Method) : IsOperation d [] (d.setMethod m)
  | popSegment (d : Cursor) : IsOperation d [] d.popSegment.2
  | pushSegment (d : Cursor) (segment : String) : IsOperation d [] (d.pushSegment segment)
  | popQuery (d : Cursor) (key : String) : IsOperation d [.remove key] (d.popQuery key).2
  | pushQuery (d : Cursor) (key value : String) :
      IsOperation d [.add key value] (d.pushQuery key value)
  | takeBody (d : Cursor) : IsOperation d [] d.takeBody.2
  | setBody (d : Cursor) (body : Bytes) : IsOperation d [] (d.setBody body)
  | setContentType (d : Cursor) (contentType : Http.MediaType) :
      IsOperation d [] (d.setContentType contentType)
  | merge (d fragment : Cursor) : IsOperation d (additions fragment.query.pairs) (d.merge fragment)
  | parse {α : Type} (d : Cursor) (m : Matcher α) :
      IsOperation d ((m.removed d).map .remove) (m.parse d).2
  | print {α : Type} (d : Cursor) (m : Matcher α) (a : α) :
      IsOperation d (additions (m.written a)) (m.print a d).2

/-- Some operations lead from the first cursor to the second, with this log. -/
inductive Leads (d : Cursor) : List Change → Cursor → Prop
  | refl : Leads d [] d
  | step {log changes : List Change} {e f : Cursor} (h : Leads d log e) (hop : IsOperation e changes f) :
      Leads d (log ++ changes) f

variable {first log changes : List Change} {d e : Cursor}

/-! ## Queries -/

theorem query_ofRequest (r : Http.Request) :
    (ofRequest r).query = if (ofRequest r).malformed = none then readQuery r.uri.query else .empty := by
  unfold ofRequest ofParts
  rcases readPath r.uri.path with e | path <;> rfl

theorem IsStart.query_eq (h : IsStart log d) : d.query = .ofPairs (remaining log) := by
  cases h with
  | empty => rfl
  | @ofUri m text uri _ huri h =>
    rw [Query.remaining_additions]
    rw [Cursor.ofUri, huri] at h
    simp only [ofParts] at h
    split at h
    · cases h
      rfl
    · cases h
  | ofRequest r =>
    rw [query_ofRequest]
    split_ifs
    · rw [Query.remaining_additions]
      rfl
    · rfl

/-- One operation makes the changes of its log to the query. -/
theorem IsOperation.query_eq (h : IsOperation d changes e) : e.query = d.query.applyAll changes := by
  cases h with
  | merge _ fragment => rw [Query.applyAll_additions]; rfl
  | parse _ m => rw [m.query_parse, Query.applyAll, List.foldl_map]; rfl
  | print _ m a => rw [m.query_print, Query.applyAll_additions]
  | _ => rfl

theorem Leads.query_eq (h : d.Leads log e) : e.query = d.query.applyAll log := by
  induction h with
  | refl => rfl
  | step _ hop ih => rw [hop.query_eq, ih, Query.applyAll_append]

/-! ## Marks -/

/-- No operation changes the mark of a malformed cursor. -/
theorem IsOperation.malformed_eq (h : IsOperation d changes e) : e.malformed = d.malformed := by
  cases h with
  | parse _ m => exact (m.consumes_parse d).malformed
  | print _ m a => exact (m.print_keeps a d).2
  | _ => rfl

theorem Leads.malformed_eq (h : d.Leads log e) : e.malformed = d.malformed := by
  induction h with
  | refl => rfl
  | step _ hop ih => rw [hop.malformed_eq, ih]

/-! ## What the query shows -/

/-- There is a question mark in the target exactly when the query has a field. -/
theorem mem_pathString_iff (d : Cursor) : '?' ∈ d.pathString.toList ↔ d.query.groups ≠ [] := by
  have hpath : '?' ∉ pathText d.path := fun h => (isPathChar_of_mem_pathText h).2.1 rfl
  rw [pathString, String.toList_ofList, List.mem_append, or_iff_right hpath, queryText]
  split_ifs with h
  · simpa using h
  · simpa using h

/-- A query is an insertion-ordered multimap. Whatever happened to a cursor since it was made, the keys of
its query are distinct and have values; each key has the values that were added since it was last
removed, and the keys stand in the order in which they were first added since then. -/
theorem IsStart.query_of_leads (hs : IsStart first d) (h : d.Leads log e) :
    e.query.keys.Nodup ∧ (∀ group ∈ e.query.groups, group.2 ≠ []) ∧
      (∀ key, (e.popQuery key).1 = e.query.find? key ∧
        e.query.find? key = if valuesAdded (first ++ log) key = [] then none
          else some (valuesAdded (first ++ log) key)) ∧
      e.query.pairs = (keysAdded (first ++ log)).flatMap (fun key =>
        (valuesAdded (first ++ log) key).map fun value => (key, value)) ∧
      ('?' ∈ e.pathString.toList ↔ e.query.pairs ≠ []) := by
  have hquery : e.query = .ofPairs (remaining (first ++ log)) := by
    rw [h.query_eq, hs.query_eq, Query.applyAll_ofPairs_remaining]
  have hwell : e.query.WellFormed := hquery ▸ Query.wellFormed_ofPairs _
  have hfind (key : String) : e.query.find? key =
      if valuesAdded (first ++ log) key = [] then none else some (valuesAdded (first ++ log) key) := by
    rw [hquery, Query.find?_ofPairs]
    rfl
  refine ⟨hwell.1, hwell.2, fun key => ⟨rfl, hfind key⟩, ?_, ?_⟩
  · have hkeys : e.query.keys = keysAdded (first ++ log) := by
      rw [hquery, Query.keys_ofPairs]
      rfl
    rw [Query.pairs_eq_flatMap hwell, hkeys]
    refine List.flatMap_congr fun key _ => ?_
    rw [hfind]
    split_ifs with hnil
    · rw [hnil]
      rfl
    · rfl
  · rw [mem_pathString_iff, not_iff_not, Query.pairs_eq_nil_iff hwell]

/-- A search before its words are changed. -/
def searchStart : Cursor :=
  { method? := some .get, path := ["search"], query := ⟨[("q", ["tea", "mug"]), ("tag", ["a"])]⟩ }

/-- The search after its words are replaced, its tag is read and two other tags are written. -/
def searchAgain : Cursor :=
  let d := (searchStart.popQuery "q").2.pushQuery "q" "jug"
  ((Matcher.queryAll "tag" (.text String)).print ["b", "c"]
    ((Matcher.query "tag" (.text String)).parse d).2).2

/-- A key that is added again after its removal stands behind the keys that were left. -/
theorem query_of_leads_searchAgain :
    IsStart (additions [("q", "tea"), ("tag", "a"), ("q", "mug")]) searchStart ∧
      searchStart.Leads
        [.remove "q", .add "q" "jug", .remove "tag", .add "tag" "b", .add "tag" "c"] searchAgain ∧
      searchAgain.query.pairs = [("q", "jug"), ("tag", "b"), ("tag", "c")] ∧
      (searchAgain.popQuery "tag").1 = some ["b", "c"] ∧ '?' ∈ searchAgain.pathString.toList := by
  have hs : IsStart (additions [("q", "tea"), ("tag", "a"), ("q", "mug")]) searchStart :=
    @IsStart.ofUri .get "/search?q=tea&tag=a&q=mug"
      { path := "/search", query := some "q=tea&tag=a&q=mug" } _ (by decide +kernel) (by decide +kernel)
  have h : searchStart.Leads
      [.remove "q", .add "q" "jug", .remove "tag", .add "tag" "b", .add "tag" "c"] searchAgain :=
    (((Leads.refl.step (.popQuery _ "q")).step (.pushQuery _ "q" "jug")).step
      (.parse _ (.query "tag" (.text String)))).step (.print _ (.queryAll "tag" (.text String)) ["b", "c"])
  obtain ⟨-, -, hvalues, hpairs, hmark⟩ := hs.query_of_leads h
  refine ⟨hs, h, hpairs.trans (by decide +kernel), ?_, ?_⟩
  · rw [(hvalues "tag").1, (hvalues "tag").2]
    decide +kernel
  · rw [hmark, hpairs]
    decide +kernel

end Signpost.Cursor

import Signpost.Cursor.Exchange
import Signpost.Proofs.Cursor.Target
import Signpost.Proofs.Matcher.Exact

/-!
# Received cursors

Cursors that are read from a uri or from a request have no empty segments and grouped query fields.

* `Cursor.IsReceived`: read from a uri or a request, with any media type and any body.
* `IsReceived.isIncoming`: what matchers rely on when they read such a cursor.
-/

namespace Signpost

/-! ## Texts that are not empty -/

namespace Utf8

/-- A begun character gives a chunk, whatever follows. -/
theorem chunksFrom_some_ne_nil (p : Pending) (bs : Bytes) : chunksFrom (some p) bs ≠ [] := by
  induction bs generalizing p with
  | nil => exact List.cons_ne_nil _ _
  | cons b bs ih =>
    rw [chunksFrom, step]
    split_ifs with hb
    · dsimp only
      split
      · exact List.cons_ne_nil _ _
      · exact ih _
    · exact List.cons_ne_nil _ _

/-- A byte gave a chunk or began a character. -/
def Advances (o : List (Option Char) × Option Pending) : Prop := o.1 ≠ [] ∨ ∃ p, o.2 = some p

theorem advances_start (b : UInt8) : Advances (start b) := by
  unfold start
  dsimp only
  repeat' refine iteInduction (motive := Advances) (fun _ => ?_) fun _ => ?_
  all_goals first
    | exact .inl (List.cons_ne_nil _ _)
    | exact .inr ⟨_, rfl⟩

theorem chunks_ne_nil {bs : Bytes} (h : bs ≠ []) : chunks bs ≠ [] := by
  obtain ⟨b, bs, rfl⟩ := List.exists_cons_of_ne_nil h
  rw [chunks, chunksFrom, step]
  rcases advances_start b with hstart | ⟨p, hp⟩
  · exact List.append_ne_nil_of_left_ne_nil hstart _
  · rw [hp]
    exact List.append_ne_nil_of_right_ne_nil _ (chunksFrom_some_ne_nil p bs)

/-- Bytes that encode the empty text are none. -/
theorem ne_nil_of_decode? {bs : Bytes} (h : bs ≠ []) {cs : List Char} (hcs : decode? bs = some cs) :
    cs ≠ [] := by
  obtain ⟨c, chunks, hchunks⟩ := List.exists_cons_of_ne_nil (chunks_ne_nil h)
  rw [decode?, hchunks, List.mapM_cons] at hcs
  obtain ⟨x, -, hcs⟩ := Option.bind_eq_some_iff.1 hcs
  obtain ⟨xs, -, hcs⟩ := Option.bind_eq_some_iff.1 hcs
  cases hcs
  exact List.cons_ne_nil _ _

end Utf8

theorem Percent.decode_ne_nil {bs : Bytes} (h : bs ≠ []) : decode bs ≠ [] := by
  unfold decode
  split
  · split <;> exact List.cons_ne_nil _ _
  · exact List.cons_ne_nil _ _
  · exact absurd rfl h

namespace Cursor

/-- A written segment that is not empty stands for one that is not. -/
theorem ne_empty_of_readSegment {raw : List Char} {segment : String} (hraw : raw ≠ [])
    (h : readSegment raw = .ok segment) : segment ≠ "" := by
  unfold readSegment at h
  split at h
  · rename_i cs hcs
    have hne : cs ≠ [] :=
      Utf8.ne_nil_of_decode? (Percent.decode_ne_nil (Utf8.encode_ne_nil hraw)) hcs
    rw [← Except.ok.inj h]
    exact fun hempty => hne (String.ofList_eq_empty_iff.1 hempty)
  · cases h

theorem ne_empty_of_mapM {raws : List (List Char)} (hraws : ∀ raw ∈ raws, raw ≠ []) {path : List String}
    (h : raws.mapM readSegment = .ok path) : ∀ segment ∈ path, segment ≠ "" := by
  induction raws generalizing path with
  | nil =>
    cases h
    exact nofun
  | cons raw raws ih =>
    rw [List.mapM_cons] at h
    rcases hsegment : readSegment raw with e | segment
    · rw [hsegment] at h
      cases h
    · rcases hrest : raws.mapM readSegment with e | rest
      · simp only [hsegment, hrest] at h
        cases h
      · simp only [hsegment, hrest] at h
        cases h
        refine List.forall_mem_cons.2 ⟨?_, ih (fun r hr => hraws r (List.mem_cons_of_mem _ hr)) hrest⟩
        exact ne_empty_of_readSegment (hraws raw (by simp)) hsegment

/-- A written path is read without empty segments. -/
theorem ne_empty_of_readPath {text : String} {path : List String} (h : readPath text = .ok path) :
    ∀ segment ∈ path, segment ≠ "" :=
  ne_empty_of_mapM (fun _ hraw => of_decide_eq_true (List.mem_filter.1 hraw).2) h

/-! ## Received cursors -/

/-- The cursor was read from a method and a uri, or from a request, and then got this media type and this
body. -/
structure IsReceived (d : Cursor) : Prop where
  source : ∃ contentType body,
    (∃ method text, ofUri method text = .ok { d with contentType, body }) ∨
      ∃ request, ofRequest request = { d with contentType, body }
  body : ∀ bytes ∈ d.body, FitsMemory bytes

theorem isIncoming_of_ofParts {method : Http.Method} {uri : Http.Uri} {d : Cursor}
    (h : ofParts method uri = .ok d) : d.IsIncoming := by
  unfold ofParts at h
  split at h
  · rename_i path hpath
    cases h
    exact ⟨ne_empty_of_readPath hpath, Query.wellFormed_ofPairs _, nofun⟩
  · cases h

/-- Media type and body of a cursor do not matter for its path and query. -/
theorem IsIncoming.congr {d e : Cursor} (h : e.IsIncoming) (hpath : e.path = d.path)
    (hquery : e.query = d.query) (hbody : ∀ bytes ∈ d.body, FitsMemory bytes) : d.IsIncoming where
  path := hpath ▸ h.path
  wellFormed := hquery ▸ h.wellFormed
  body := hbody

/-- A received cursor can be read by matchers. -/
theorem IsReceived.isIncoming {d : Cursor} (h : d.IsReceived) : d.IsIncoming := by
  obtain ⟨contentType, body, ⟨method, text, hd⟩ | ⟨request, hd⟩⟩ := h.source
  · obtain ⟨uri, -, hparts⟩ := ofParts_of_ofUri hd
    exact (isIncoming_of_ofParts hparts).congr rfl rfl h.body
  · unfold ofRequest at hd
    have hpath := congrArg Cursor.path hd
    have hquery := congrArg Cursor.query hd
    dsimp only at hpath hquery
    split at hpath
    · rename_i d' hparts
      rw [hparts] at hquery
      exact (isIncoming_of_ofParts hparts).congr hpath hquery h.body
    · rename_i e hparts
      rw [hparts] at hquery
      have hempty : Cursor.IsIncoming {} := ⟨nofun, Query.wellFormed_empty, nofun⟩
      exact hempty.congr hpath hquery h.body

end Cursor

end Signpost

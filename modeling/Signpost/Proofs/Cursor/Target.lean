import Mathlib.Data.List.TakeWhile
import Mathlib.Tactic.Common
import Signpost.Cursor.Target
import Signpost.Proofs.Query.Merge
import Signpost.Proofs.Text.Ascii
import Signpost.Proofs.Url.Path

/-!
# Written targets

What `Cursor.pathString` writes is read back by `Cursor.ofUri`.

* `isPathChar_of_mem_escapeSegment`, `isQueryChar_of_mem_render`: only characters that may stand in a
  uri are written.
* `ofPathAndQuery?_append`, `ofText?_of_toList`: a uri is split where the written path ends.
* `readPath_slashed`: segments are read from what stands behind the slashes of a path.
* `readPath_pathText`, `readQuery_render`: path and query are read back, each with its own escapes.
* `ofUri_pathString`: a written target is read unless it is too long; empty segments are lost.
-/

namespace Signpost

/-! ## Written characters -/

namespace Cursor

theorem toNat_lt_of_isSegmentChar {c : Char} (h : isSegmentChar c = true) : c.toNat < 128 := by
  simp only [isSegmentChar, Bool.and_eq_true, decide_eq_true_eq] at h
  omega

theorem isPathChar_of_isSegmentChar {c : Char} (h : isSegmentChar c = true) :
    Http.Uri.isPathChar c = true ∧ c ≠ '/' ∧ c ≠ '?' ∧ c ≠ '#' := by
  have all : ∀ n : Fin 128, isSegmentChar (Char.ofNat n) = true →
      Http.Uri.isPathChar (Char.ofNat n) = true ∧ Char.ofNat n ≠ '/' ∧ Char.ofNat n ≠ '?' ∧
        Char.ofNat n ≠ '#' := by
    decide
  exact of_toNat_lt_128 (P := fun c => isSegmentChar c = true →
    Http.Uri.isPathChar c = true ∧ c ≠ '/' ∧ c ≠ '?' ∧ c ≠ '#') all (toNat_lt_of_isSegmentChar h) h

/-- A written segment holds no character that ends it. -/
theorem isPathChar_of_mem_escapeSegment {segment : String} {c : Char} (h : c ∈ escapeSegment segment) :
    Http.Uri.isPathChar c = true ∧ c ≠ '/' ∧ c ≠ '?' ∧ c ≠ '#' :=
  Percent.forall_mem_escape (P := fun c => Http.Uri.isPathChar c = true ∧ c ≠ '/' ∧ c ≠ '?' ∧ c ≠ '#')
    (fun _ _ => isPathChar_of_isSegmentChar) (by decide) (by decide) c h

theorem toNat_lt_of_isPlain {c : Char} (h : Urlencoded.isPlain c = true) : c.toNat < 128 := by
  simp only [Urlencoded.isPlain, Bool.or_eq_true, decide_eq_true_eq] at h
  rcases h with (((h | rfl) | rfl) | rfl) | rfl
  · exact toNat_lt_of_isAlphanum h
  all_goals decide

theorem isQueryChar_of_isPlain {c : Char} (h : Urlencoded.isPlain c = true) :
    Http.Uri.isQueryChar c = true ∧ c ≠ '#' := by
  have all : ∀ n : Fin 128, Urlencoded.isPlain (Char.ofNat n) = true →
      Http.Uri.isQueryChar (Char.ofNat n) = true ∧ Char.ofNat n ≠ '#' := by
    decide
  exact of_toNat_lt_128 (P := fun c => Urlencoded.isPlain c = true →
    Http.Uri.isQueryChar c = true ∧ c ≠ '#') all (toNat_lt_of_isPlain h) h

/-- What holds of plain characters and of the marks of a query holds of all that is written for pairs. -/
theorem forall_mem_render {P : Char → Prop} (hplain : ∀ c, Urlencoded.isPlain c = true → P c)
    (hmarks : P '+' ∧ P '%' ∧ P '&' ∧ P '=') {ps : List (String × String)} :
    ∀ c ∈ Urlencoded.render ps, P c := by
  obtain ⟨hplus, hpercent, hampersand, hequals⟩ := hmarks
  have hencode {cs : List Char} {c : Char} (h : c ∈ Urlencoded.encode cs) : P c := by
    rcases Urlencoded.mem_encode h with h | rfl | rfl
    · exact hplain c h
    · exact hplus
    · exact hpercent
  intro c h
  rcases mem_flatten_intersperse h with rfl | ⟨piece, hpiece, hc⟩
  · exact hampersand
  obtain ⟨p, -, rfl⟩ := List.mem_map.1 hpiece
  rcases List.mem_append.1 hc with hc | hc
  · exact hencode hc
  rcases List.mem_cons.1 hc with rfl | hc
  · exact hequals
  · exact hencode hc

/-- Written pairs hold no character that ends a query. -/
theorem isQueryChar_of_mem_render {ps : List (String × String)} {c : Char}
    (h : c ∈ Urlencoded.render ps) : Http.Uri.isQueryChar c = true ∧ c ≠ '#' :=
  forall_mem_render (fun _ => isQueryChar_of_isPlain) (by decide) c h

/-! ## Splitting a target -/

/-- A target is split where its path ends. -/
theorem ofPathAndQuery?_append (path : List Char) (query : Option (List Char)) (hne : path ≠ [])
    (hp : ∀ c ∈ path, Http.Uri.isPathChar c = true ∧ c ≠ '?' ∧ c ≠ '#')
    (hq : ∀ cs ∈ query, ∀ c ∈ cs, Http.Uri.isQueryChar c = true ∧ c ≠ '#') :
    Http.Uri.ofPathAndQuery? (path ++ query.elim [] ('?' :: ·)) =
      some { path := String.ofList path, query := query.map String.ofList } := by
  have hshown : (path ++ query.elim [] ('?' :: ·)).takeWhile (· ≠ '#') =
      path ++ query.elim [] ('?' :: ·) := by
    rw [List.takeWhile_eq_self_iff]
    intro c hc
    rw [decide_eq_true_eq]
    rcases List.mem_append.1 hc with hc | hc
    · exact (hp c hc).2.2
    cases query with
    | none => cases hc
    | some cs =>
      rcases List.mem_cons.1 hc with rfl | hc
      · decide
      · exact (hq cs rfl c hc).2
  have hpath : (path ++ query.elim [] ('?' :: ·)).takeWhile (· ≠ '?') = path := by
    rw [List.takeWhile_append_of_pos fun c hc => decide_eq_true (hp c hc).2.1]
    cases query <;> simp
  have hall : path.all Http.Uri.isPathChar = true := List.all_eq_true.2 fun c hc => (hp c hc).1
  have hempty : path.isEmpty = false := by
    rw [Bool.eq_false_iff]
    exact fun h => hne (List.isEmpty_iff.1 h)
  unfold Http.Uri.ofPathAndQuery?
  simp only [hshown, hpath, List.drop_left, hall, hempty]
  cases query with
  | none => simp
  | some cs =>
    have hcs : cs.all Http.Uri.isQueryChar = true :=
      List.all_eq_true.2 fun c hc => (hq cs rfl c hc).1
    simp [hcs]

/-- A text that begins with a slash is a uri of its path and its query, unless it is too long. -/
theorem ofText?_of_toList {text : String} {cs : List Char} {query : Option (List Char)}
    (htext : text.toList = '/' :: cs ++ query.elim [] ('?' :: ·))
    (hsize : text.utf8ByteSize ≤ Http.Uri.maxBytes)
    (hp : ∀ c ∈ '/' :: cs, Http.Uri.isPathChar c = true ∧ c ≠ '?' ∧ c ≠ '#')
    (hq : ∀ q ∈ query, ∀ c ∈ q, Http.Uri.isQueryChar c = true ∧ c ≠ '#') :
    Http.Uri.ofText? text =
      some { path := String.ofList ('/' :: cs), query := query.map String.ofList } := by
  rw [Http.Uri.ofText?, if_neg (by omega), htext]
  exact ofPathAndQuery?_append ('/' :: cs) query (List.cons_ne_nil _ _) hp hq

/-! ## Reading -/

/-- The segments of a path are read from what stands behind its slashes, where something does. -/
theorem readPath_slashed {raws : List (List Char)} (h : ∀ raw ∈ raws, ∀ c ∈ raw, c ≠ '/') :
    readPath (String.ofList (Url.slashed raws)) = (raws.filter (· ≠ [])).mapM readSegment := by
  have hpieces : pieces (· = '/') ([] ++ Url.slashed raws) = [] :: raws :=
    Url.pieces_slashed (by decide) (by simp) fun raw hraw c hc => decide_eq_false (h raw hraw c hc)
  rw [List.nil_append] at hpieces
  rw [readPath, String.toList_ofList, hpieces, List.filter_cons_of_neg (by simp)]

/-- Segments are read one by one. -/
theorem mapM_readSegment {raws : List (List Char)} {path : List String}
    (h : List.Forall₂ (fun raw segment => readSegment raw = .ok segment) raws path) :
    raws.mapM readSegment = .ok path := by
  induction h with
  | nil => rfl
  | cons hsegment _ ih =>
    rw [List.mapM_cons, hsegment, ih]
    rfl

theorem readSegment_escapeSegment (segment : String) :
    readSegment (escapeSegment segment) = .ok segment := by
  rw [readSegment, escapeSegment, Percent.decodeText?_escape (by decide)]
  simp

theorem escapeSegment_eq_nil {segment : String} : escapeSegment segment = [] ↔ segment = "" := by
  constructor
  · intro h
    have hr := readSegment_escapeSegment segment
    rw [h] at hr
    exact (Except.ok.inj hr).symm
  · rintro rfl
    rfl

/-- The written segments of a path, one empty one when it has none. -/
def writtenSegments (path : List String) : List (List Char) :=
  if path = [] then [[]] else path.map escapeSegment

theorem eq_of_mem_writtenSegments {path : List String} {raw : List Char} (h : raw ∈ writtenSegments path) :
    raw = [] ∨ ∃ segment, raw = escapeSegment segment := by
  unfold writtenSegments at h
  split_ifs at h
  · exact .inl (List.mem_singleton.1 h)
  · obtain ⟨segment, -, rfl⟩ := List.mem_map.1 h
    exact .inr ⟨segment, rfl⟩

theorem pathText_eq_slashed (path : List String) : pathText path = Url.slashed (writtenSegments path) := by
  cases path with
  | nil => rfl
  | cons segment path => simp [pathText, writtenSegments, Url.slashed, List.flatMap_map]

theorem filter_writtenSegments (path : List String) :
    (writtenSegments path).filter (· ≠ []) = (path.filter (· ≠ "")).map escapeSegment := by
  unfold writtenSegments
  split_ifs with h
  · subst h
    rfl
  · rw [List.filter_map]
    congr 2
    funext segment
    simp [escapeSegment_eq_nil]

/-- A written path is read back without its empty segments. -/
theorem readPath_pathText (path : List String) :
    readPath (String.ofList (pathText path)) = .ok (path.filter (· ≠ "")) := by
  have hslash : ∀ raw ∈ writtenSegments path, ∀ c ∈ raw, c ≠ '/' := by
    intro raw hraw c hc
    rcases eq_of_mem_writtenSegments hraw with rfl | ⟨segment, rfl⟩
    · cases hc
    · exact (isPathChar_of_mem_escapeSegment hc).2.1
  rw [pathText_eq_slashed, readPath_slashed hslash, filter_writtenSegments]
  refine mapM_readSegment (List.forall₂_map_left_iff.2 (List.forall₂_same.2 ?_))
  exact fun segment _ => readSegment_escapeSegment segment

/-- A written query is read back. -/
theorem readQuery_render {query : Query} (h : query.WellFormed) :
    readQuery (some (String.ofList (Urlencoded.render query.pairs))) = query := by
  rw [readQuery, Option.getD_some, String.toList_ofList, Urlencoded.parse_render,
    Query.ofPairs_pairs h]

theorem isPathChar_of_mem_pathText {path : List String} {c : Char} (h : c ∈ pathText path) :
    Http.Uri.isPathChar c = true ∧ c ≠ '?' ∧ c ≠ '#' := by
  have hc : c = '/' ∨ ∃ segment, c ∈ escapeSegment segment := by
    unfold pathText at h
    split at h
    · exact .inl (List.mem_singleton.1 h)
    · obtain ⟨segment, -, hc⟩ := List.mem_flatMap.1 h
      exact (List.mem_cons.1 hc).imp_right fun hc => ⟨segment, hc⟩
  rcases hc with rfl | ⟨segment, hc⟩
  · decide
  · obtain ⟨hpath, -, hrest⟩ := isPathChar_of_mem_escapeSegment hc
    exact ⟨hpath, hrest⟩

theorem pathText_eq_cons (path : List String) : ∃ cs, pathText path = '/' :: cs := by
  cases path with
  | nil => exact ⟨[], rfl⟩
  | cons segment path => exact ⟨_, rfl⟩

/-- The uri of a written target. -/
theorem ofText?_pathString (d : Cursor) :
    Http.Uri.ofText? d.pathString =
      if d.pathString.utf8ByteSize ≤ Http.Uri.maxBytes then
        some
          { path := String.ofList (pathText d.path)
            query := if d.query.groups.isEmpty then none
              else some (String.ofList (Urlencoded.render d.query.pairs)) }
      else none := by
  by_cases hlen : d.pathString.utf8ByteSize ≤ Http.Uri.maxBytes
  · obtain ⟨cs, hcs⟩ := pathText_eq_cons d.path
    have htext : d.pathString.toList = '/' :: cs ++
        (if d.query.groups.isEmpty then none
          else some (Urlencoded.render d.query.pairs)).elim [] ('?' :: ·) := by
      rw [pathString, String.toList_ofList, queryText, hcs]
      split_ifs <;> rfl
    have hp : ∀ c ∈ '/' :: cs, Http.Uri.isPathChar c = true ∧ c ≠ '?' ∧ c ≠ '#' := fun c hc =>
      isPathChar_of_mem_pathText (hcs ▸ hc)
    have hq : ∀ q ∈ (if d.query.groups.isEmpty then none else some (Urlencoded.render d.query.pairs)),
        ∀ c ∈ q, Http.Uri.isQueryChar c = true ∧ c ≠ '#' := by
      intro q hq c hc
      split_ifs at hq
      · cases hq
      · cases hq
        exact isQueryChar_of_mem_render hc
    rw [if_pos hlen, ofText?_of_toList htext hlen hp hq, hcs]
    split_ifs <;> rfl
  · rw [Http.Uri.ofText?, if_pos (by omega), if_neg hlen]

/-- What is read from a text is read from its uri. -/
theorem ofParts_of_ofUri {m : Http.Method} {text : String} {d : Cursor} (h : ofUri m text = .ok d) :
    ∃ uri, Http.Uri.ofText? text = some uri ∧ ofParts m uri = .ok d := by
  unfold ofUri at h
  split at h
  · rename_i uri huri
    exact ⟨uri, huri, h⟩
  · cases h

/-- A written target is read back, without its empty segments, unless it is too long for a uri. -/
theorem ofUri_pathString (m : Http.Method) {d : Cursor} (hd : d.query.WellFormed) :
    ofUri m d.pathString =
      if d.pathString.utf8ByteSize ≤ Http.Uri.maxBytes then
        .ok { method? := some m, path := d.path.filter (· ≠ ""), query := d.query }
      else .error .invalidUri := by
  have hquery : readQuery (if d.query.groups.isEmpty then none
      else some (String.ofList (Urlencoded.render d.query.pairs))) = d.query := by
    split_ifs with h
    · rcases hq : d.query with ⟨_ | ⟨g, gs⟩⟩
      · rfl
      · simp [hq] at h
    · exact readQuery_render hd
  rw [ofUri, ofText?_pathString]
  by_cases hlen : d.pathString.utf8ByteSize ≤ Http.Uri.maxBytes
  · simp only [if_pos hlen, ofParts, readPath_pathText, hquery]
  · simp only [if_neg hlen]

end Cursor

end Signpost

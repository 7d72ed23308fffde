import Signpost.Proofs.Router.Canonical
import Signpost.Proofs.Url.Link

/-!
# Links

A link is the text of a base url's origin and path with a written target behind it. It is read as a url below
the base url with the query of the target. Its path is the written one as long as each segment stays a segment
in a url.

* `Cursor.IsOwnSegment`: a segment that stays one. `isNormalSegment_escapeSegment_iff`: escapes make no other
  segment one.
* `BaseUrl.parse_linkBase_append`: what is read from a link.
* `Router.parse_link`: the links of a router.
-/

namespace Signpost

namespace Cursor

/-! ## Written segments in a url -/

/-- In a url the segment is no dot segment, and holds no backslash, which is a slash there. -/
def IsOwnSegment (segment : String) : Prop := segment ≠ "." ∧ segment ≠ ".." ∧ '\\' ∉ segment.toList

instance (segment : String) : Decidable (IsOwnSegment segment) := inferInstanceAs (Decidable (_ ∧ _))

theorem isPathChar_url_of_isSegmentChar {c : Char} (h : isSegmentChar c = true) :
    Url.isPathChar c = true := by
  have all : ∀ n : Fin 128, isSegmentChar (Char.ofNat n) = true → Url.isPathChar (Char.ofNat n) = true := by
    decide
  exact of_toNat_lt_128 (P := fun c => isSegmentChar c = true → Url.isPathChar c = true) all
    (toNat_lt_of_isSegmentChar h) h

theorem isPathChar_url_of_mem_escapeSegment {segment : String} {c : Char} (h : c ∈ escapeSegment segment) :
    Url.isPathChar c = true :=
  Percent.forall_mem_escape (P := fun c => Url.isPathChar c = true)
    (fun _ _ => isPathChar_url_of_isSegmentChar) (by decide) (by decide) c h

/-- Only a backslash in the segment is a slash in what is written for it. -/
theorem isSlash_of_mem_escapeSegment {segment : String} (hs : '\\' ∉ segment.toList) {c : Char}
    (h : c ∈ escapeSegment segment) : Url.isSlash c = false := by
  refine Percent.forall_mem_escape (P := fun x => Url.isSlash x = false) (fun x hx hkeep => ?_) (by decide)
    (by decide) c h
  have hslash : x ≠ '/' := (isPathChar_of_isSegmentChar hkeep).2.1
  have hbackslash : x ≠ '\\' := by
    rintro rfl
    exact hs hx
  simp [Url.isSlash, hslash, hbackslash]

/-- Characters in lower case that make dot segments are kept only if they are dots. -/
theorem eq_dot_of_isSegmentChar {c : Char} (h : isSegmentChar c = true) :
    c.toLower ≠ '%' ∧ (c.toLower = '.' → c = '.') := by
  have all : ∀ n : Fin 128, isSegmentChar (Char.ofNat n) = true →
      (Char.ofNat n).toLower ≠ '%' ∧ ((Char.ofNat n).toLower = '.' → Char.ofNat n = '.') := by
    decide
  exact of_toNat_lt_128 (P := fun c => isSegmentChar c = true →
    c.toLower ≠ '%' ∧ (c.toLower = '.' → c = '.')) all (toNat_lt_of_isSegmentChar h) h

/-- Of the texts that are written without escapes, only dots are dot segments. -/
theorem eq_dots_of_isDots {cs : List Char} (hkeep : ∀ c ∈ cs, isSegmentChar c = true)
    (h : Url.isDots cs = true) : cs = ['.'] ∨ cs = ['.', '.'] := by
  have hpercent : '%' ∉ cs.map Char.toLower := by
    rw [List.mem_map]
    rintro ⟨c, hc, hlower⟩
    exact (eq_dot_of_isSegmentChar (hkeep c hc)).1 hlower
  have hdots (n : Nat) (hlower : cs.map Char.toLower = List.replicate n '.') :
      cs = List.replicate n '.' := by
    refine List.eq_replicate_iff.2 ⟨by simpa using congrArg List.length hlower, fun c hc => ?_⟩
    have hmem : c.toLower ∈ cs.map Char.toLower := List.mem_map_of_mem hc
    rw [hlower] at hmem
    exact (eq_dot_of_isSegmentChar (hkeep c hc)).2 (List.eq_of_mem_replicate hmem)
  have hlower := Url.isDots_iff.1 h
  simp only [List.map_cons, List.map_nil, List.mem_cons, List.not_mem_nil, or_false] at hlower
  rcases hlower with hs | hs | hs | hs | hs | hs
  · exact .inl (hdots 1 hs)
  · exact absurd (hs ▸ by decide) hpercent
  · exact .inr (hdots 2 hs)
  · exact absurd (hs ▸ by decide) hpercent
  · exact absurd (hs ▸ by decide) hpercent
  · exact absurd (hs ▸ by decide) hpercent

/-- A written segment is normal exactly if it stays one in a url. -/
theorem isNormalSegment_escapeSegment_iff {segment : String} :
    Url.IsNormalSegment (escapeSegment segment) ↔ IsOwnSegment segment := by
  constructor
  · intro h
    refine ⟨?_, ?_, fun hmem => ?_⟩
    · rintro rfl
      exact absurd h.dots (by decide)
    · rintro rfl
      exact absurd h.dots (by decide)
    · have hwritten : '\\' ∈ escapeSegment segment :=
        List.mem_flatMap.2 ⟨'\\', hmem, by decide⟩
      exact absurd (h.chars _ hwritten).2 (by decide)
  · rintro ⟨hdot, hdouble, hbackslash⟩
    refine ⟨fun c hc => ⟨isPathChar_url_of_mem_escapeSegment hc,
      isSlash_of_mem_escapeSegment hbackslash hc⟩, ?_⟩
    by_contra h
    have h : Url.isDots (escapeSegment segment) = true := by simpa using h
    have hkeep := Url.keep_of_isDots_escape (by decide) h
    rw [escapeSegment, Url.escape_of_forall hkeep] at h
    rcases eq_dots_of_isDots hkeep h with hs | hs
    · exact hdot (String.toList_inj.1 hs)
    · exact hdouble (String.toList_inj.1 hs)

/-! ## Written targets in a url -/

theorem writtenSegments_ne_nil (path : List String) : writtenSegments path ≠ [] := by
  unfold writtenSegments
  split_ifs with h
  · simp
  · simpa using h

theorem of_mem_writtenSegments {path : List String} {s : List Char} (hs : s ∈ writtenSegments path) :
    ∀ c ∈ s, Url.isPathChar c = true ∧ c ≠ '/' := by
  intro c hc
  rcases eq_of_mem_writtenSegments hs with rfl | ⟨segment, rfl⟩
  · cases hc
  · exact ⟨isPathChar_url_of_mem_escapeSegment hc, (isPathChar_of_mem_escapeSegment hc).2.1⟩

theorem isNormalSegment_writtenSegments_iff {path : List String} :
    (∀ s ∈ writtenSegments path, Url.IsNormalSegment s) ↔ ∀ segment ∈ path, IsOwnSegment segment := by
  unfold writtenSegments
  split_ifs with h
  · simp [h, Url.isNormalSegment_nil]
  · simp [isNormalSegment_escapeSegment_iff]

/-- The written query, none when there are no fields. -/
def writtenQuery (query : Query) : Option (List Char) :=
  if query.groups.isEmpty then none else some (Urlencoded.render query.pairs)

theorem isQueryChar_of_mem_writtenQuery (query : Query) :
    ∀ q ∈ writtenQuery query, ∀ c ∈ q, Url.isQueryChar c = true := by
  have hplain (c : Char) (h : Urlencoded.isPlain c = true) : Url.isQueryChar c = true := by
    have all : ∀ n : Fin 128, Urlencoded.isPlain (Char.ofNat n) = true →
        Url.isQueryChar (Char.ofNat n) = true := by
      decide
    exact of_toNat_lt_128 (P := fun c => Urlencoded.isPlain c = true → Url.isQueryChar c = true) all
      (toNat_lt_of_isPlain h) h
  intro q hq
  unfold writtenQuery at hq
  split_ifs at hq
  · cases hq
  · cases hq
    exact forall_mem_render hplain (by decide)

theorem pathString_eq (d : Cursor) : d.pathString =
    String.ofList (pathText d.path ++ (writtenQuery d.query).elim [] ('?' :: ·)) := by
  unfold pathString queryText writtenQuery
  split_ifs <;> rfl

/-- The path of a target. -/
def pathPart (target : String) : String := String.ofList (cut (· = '?') target.toList).1

/-- The query of a target, if it has one. -/
def queryPart (target : String) : Option String := (cut (· = '?') target.toList).2.map String.ofList

theorem cut_pathString (d : Cursor) :
    cut (· = '?') d.pathString.toList = (pathText d.path, writtenQuery d.query) := by
  have hno : ∀ c ∈ pathText d.path, decide (c = '?') = false := fun c hc =>
    decide_eq_false (isPathChar_of_mem_pathText hc).2.1
  rw [pathString_eq, String.toList_ofList]
  rcases writtenQuery d.query with _ | q
  · simpa using cut_of_forall hno
  · exact cut_append_cons hno (by decide) q

end Cursor

namespace BaseUrl

/-- A link is read as a url below the base url, with the query of the target. Its path is that of the target
exactly if every segment stays one. -/
theorem parse_linkBase_append {names : Url.NameReading} {u : BaseUrl} (hu : u.IsNormal names)
    (d : Cursor) :
    ∃ v, parse (u.linkBase ++ d.pathString) names = .ok v ∧ v.scheme = u.scheme ∧
      v.authority.host = u.authority.host ∧ v.authority.port = u.authority.port ∧
      v.query = Cursor.queryPart d.pathString ∧
      (v.path = u.basePath ++ Cursor.pathPart d.pathString ↔
        ∀ segment ∈ d.path, Cursor.IsOwnSegment segment) := by
  obtain ⟨above, habove, hbase⟩ := hu.exists_basePath
  have hne : above ++ Cursor.writtenSegments d.path ≠ [] :=
    List.append_ne_nil_of_right_ne_nil _ (Cursor.writtenSegments_ne_nil d.path)
  have hchars : ∀ s ∈ above ++ Cursor.writtenSegments d.path, ∀ c ∈ s,
      Url.isPathChar c = true ∧ c ≠ '/' := by
    intro s hs c hc
    rcases List.mem_append.1 hs with hs | hs
    · refine ⟨((habove s hs).chars c hc).1, ?_⟩
      rintro rfl
      exact absurd ((habove s hs).chars '/' hc).2 (by decide)
    · exact Cursor.of_mem_writtenSegments hs c hc
  obtain ⟨rest, hstart⟩ := Url.slashed_eq_cons hne
  have hparse := parse_origin_append hu hstart
    (Url.forall_mem_slashed (by decide) fun s hs c hc => (hchars s hs c hc).1)
    (Cursor.isQueryChar_of_mem_writtenQuery d.query)
  have hpath : u.basePath ++ Cursor.pathPart d.pathString =
      String.ofList (Url.slashed (above ++ Cursor.writtenSegments d.path)) := by
    rw [hbase, Cursor.pathPart, Cursor.cut_pathString, Cursor.pathText_eq_slashed, Url.slashed_append,
      String.ofList_append]
  have hlink : u.linkBase ++ d.pathString = u.origin ++ String.ofList
      (Url.slashed (above ++ Cursor.writtenSegments d.path) ++
        (Cursor.writtenQuery d.query).elim [] ('?' :: ·)) := by
    rw [linkBase, hbase, Cursor.pathString_eq, Cursor.pathText_eq_slashed, Url.slashed_append,
      String.append_assoc, ← String.ofList_append, List.append_assoc]
  rw [← hlink] at hparse
  refine ⟨_, hparse, rfl, rfl, rfl, ?_, ?_⟩
  · rw [Cursor.queryPart, Cursor.cut_pathString]
  · rw [hpath, Url.normalPath_eq_self_iff hne fun s hs c hc => (hchars s hs c hc).2,
      ← Cursor.isNormalSegment_writtenSegments_iff]
    simp only [List.mem_append]
    exact ⟨fun h s hs => h s (.inr hs), fun h s hs => hs.elim (habove s) (h s)⟩

end BaseUrl

namespace Router

variable {α : Type} {r : Router α} {a : α}

/-- A route that is written has a link, which is read as a url. -/
theorem parse_link {names : Url.NameReading} (hr : r.base.IsNormal names) {p : Cursor}
    (hp : r.tryPrint a = .ok p) :
    ∃ target link u, r.path a = .ok target ∧ r.link a = .ok link ∧ BaseUrl.parse link names = .ok u ∧
      u.scheme = r.base.scheme ∧ u.authority.host = r.base.authority.host ∧
      u.authority.port = r.base.authority.port ∧ u.query = Cursor.queryPart target ∧
      (u.path = r.base.basePath ++ Cursor.pathPart target ↔
        ∀ segment ∈ p.path, Cursor.IsOwnSegment segment) := by
  obtain ⟨-, hpath, hlink⟩ := print_of_tryPrint hp
  obtain ⟨u, hparse, hu⟩ := BaseUrl.parse_linkBase_append hr p
  exact ⟨_, _, u, hpath, hlink, hparse, hu⟩

end Router

end Signpost

import Signpost.Proofs.Cursor.Target
import Signpost.Proofs.Text.Percent
import Signpost.Router

/-!
# Forms of a path

A path has many forms. Slashes may be repeated, at both ends too, and each byte of a segment may be escaped,
also where it need not be. A path is split before anything in it is unescaped, and unescaped once, so all
forms are read as the same segments.

* `Cursor.IsPathForm`: the texts that write some segments.
* `WritesSegments.exists_slashed`: a form is a list of pieces behind slashes, and the pieces that are not empty
  write the segments.
* `readPath_of_writesSegments`, `ofUri_of_isPathForm`: what is read from a form.
* `Router.resolve_of_isPathForm`: no router tells two forms of a path apart.
-/

namespace Signpost

namespace Cursor

/-- The characters write the segments in their order, each behind one slash or more, and any number of slashes
behind the last. -/
inductive WritesSegments : List String → List Char → Prop
  | slashes (n : Nat) : WritesSegments [] (List.replicate n '/')
  | segment (n : Nat) {segment : String} {raw : List Char} {path : List String} {cs : List Char}
      (hraw : Percent.Written (Utf8.encode segment.toList) raw) (h : WritesSegments path cs) :
      WritesSegments (segment :: path) (List.replicate (n + 1) '/' ++ raw ++ cs)

/-- The text begins with a slash and writes the segments. -/
structure IsPathForm (path : List String) (text : String) : Prop where
  start : ∃ cs, text.toList = '/' :: cs
  writes : WritesSegments path text.toList

/-! ## Pieces -/

/-- The pieces of a form that are not empty write the segments. -/
theorem WritesSegments.exists_slashed {path : List String} {cs : List Char} (h : WritesSegments path cs)
    (hne : ∀ segment ∈ path, segment ≠ "") :
    ∃ raws, cs = Url.slashed raws ∧ (∀ raw ∈ raws, ∃ bs, Percent.Written bs raw) ∧
      List.Forall₂ (fun raw segment => Percent.Written (Utf8.encode segment.toList) raw)
        (raws.filter (· ≠ [])) path := by
  induction h with
  | slashes n =>
    refine ⟨List.replicate n [], (Url.slashed_replicate_nil n).symm, ?_, by simp⟩
    intro raw hraw
    rw [List.eq_of_mem_replicate hraw]
    exact ⟨[], .nil⟩
  | @segment n segment raw path cs hraw _ ih =>
    obtain ⟨hsegment, hpath⟩ := List.forall_mem_cons.1 hne
    obtain ⟨raws, rfl, hwritten, hforms⟩ := ih hpath
    have hrawne : raw ≠ [] := hraw.ne_nil (Utf8.encode_ne_nil (by simpa using hsegment))
    -- The slashes before the last one in front of the segment stand for empty pieces.
    refine ⟨List.replicate n [] ++ raw :: raws, ?_, ?_, ?_⟩
    · rw [Url.slashed_append, Url.slashed_replicate_nil, Url.slashed_cons, List.replicate_succ']
      simp
    · intro other hother
      rcases List.mem_append.1 hother with hother | hother
      · rw [List.eq_of_mem_replicate hother]
        exact ⟨[], .nil⟩
      · rcases List.mem_cons.1 hother with rfl | hother
        · exact ⟨_, hraw⟩
        · exact hwritten other hother
    · have hempty : (List.replicate n ([] : List Char)).filter (· ≠ []) = [] := by simp
      rw [List.filter_append, hempty, List.nil_append, List.filter_cons_of_pos (by simpa using hrawne)]
      exact .cons hraw hforms

/-! ## Reading -/

theorem isPathChar_of_isUnreserved {c : Char} (h : Percent.isUnreserved c = true ∨ c = '%') :
    Http.Uri.isPathChar c = true ∧ c ≠ '/' ∧ c ≠ '?' ∧ c ≠ '#' := by
  rcases h with h | rfl
  · have all : ∀ n : Fin 128, Percent.isUnreserved (Char.ofNat n) = true →
        isSegmentChar (Char.ofNat n) = true := by
      decide
    exact isPathChar_of_isSegmentChar (of_toNat_lt_128
      (P := fun c => Percent.isUnreserved c = true → isSegmentChar c = true) all
      (Percent.toNat_lt_of_isUnreserved h) h)
  · decide

theorem readSegment_of_written {segment : String} {raw : List Char}
    (h : Percent.Written (Utf8.encode segment.toList) raw) : readSegment raw = .ok segment := by
  rw [readSegment, Percent.decodeText?_of_written h]
  simp

/-- Written segments are read as those segments. -/
theorem readPath_of_writesSegments {path : List String} (hne : ∀ segment ∈ path, segment ≠ "")
    {cs : List Char} (h : WritesSegments path cs) : readPath (String.ofList cs) = .ok path := by
  obtain ⟨raws, rfl, hwritten, hforms⟩ := h.exists_slashed hne
  have hslash : ∀ raw ∈ raws, ∀ c ∈ raw, c ≠ '/' := by
    intro raw hraw c hc
    obtain ⟨bs, hbs⟩ := hwritten raw hraw
    exact (isPathChar_of_isUnreserved (hbs.mem c hc)).2.1
  rw [readPath_slashed hslash]
  exact mapM_readSegment (hforms.imp fun _ _ => readSegment_of_written)

/-- Nothing in a form ends the path of a uri. -/
theorem isPathChar_of_writesSegments {path : List String} (hne : ∀ segment ∈ path, segment ≠ "")
    {cs : List Char} (h : WritesSegments path cs) :
    ∀ c ∈ cs, Http.Uri.isPathChar c = true ∧ c ≠ '?' ∧ c ≠ '#' := by
  obtain ⟨raws, rfl, hwritten, -⟩ := h.exists_slashed hne
  refine Url.forall_mem_slashed (by decide) fun raw hraw c hc => ?_
  obtain ⟨bs, hbs⟩ := hwritten raw hraw
  obtain ⟨hpath, -, hends⟩ := isPathChar_of_isUnreserved (hbs.mem c hc)
  exact ⟨hpath, hends⟩

/-- A form of a path is read as its segments, unless it is too long for a uri. -/
theorem ofUri_of_isPathForm (m : Http.Method) {path : List String} (hne : ∀ segment ∈ path, segment ≠ "")
    {text : String} (h : IsPathForm path text) (hsize : text.utf8ByteSize ≤ Http.Uri.maxBytes) :
    ofUri m text = .ok { method? := some m, path } := by
  obtain ⟨cs, hcs⟩ := h.start
  have hwrites := h.writes
  rw [hcs] at hwrites
  have htext : text.toList = '/' :: cs ++ (none : Option (List Char)).elim [] ('?' :: ·) := by
    simpa using hcs
  have huri := ofText?_of_toList htext hsize (isPathChar_of_writesSegments hne hwrites) nofun
  simp only [ofUri, huri, ofParts, readPath_of_writesSegments hne hwrites]
  rfl

end Cursor

namespace Router

/-- A form of a path that is not too long for a uri is read as its segments and nothing else, and no router
tells it from the other forms of the path. -/
theorem resolve_of_isPathForm (m : Http.Method) {path : List String} (hne : ∀ segment ∈ path, segment ≠ "")
    {text : String} (h : Cursor.IsPathForm path text) (hsize : text.utf8ByteSize ≤ Http.Uri.maxBytes) :
    Cursor.ofUri m text = .ok { method? := some m, path } ∧
      ∀ other, Cursor.IsPathForm path other → other.utf8ByteSize ≤ Http.Uri.maxBytes →
        ∀ (α : Type) (r : Router α),
          (Cursor.ofUri m other).map r.resolve = (Cursor.ofUri m text).map r.resolve := by
  have htext := Cursor.ofUri_of_isPathForm m hne h hsize
  refine ⟨htext, ?_⟩
  intro other hother hothersize α r
  rw [htext, Cursor.ofUri_of_isPathForm m hne hother hothersize]

/-- A form of two segments, one with a slash in it and one that reads like an escaped slash. -/
def formOfSlashes : String := "//%61%2f%c4%8D/%252F//"

/-- Another form of them, with other bytes escaped, the digits in the other case and other slashes doubled. -/
def otherFormOfSlashes : String := "/a%2F%C4%8d//%25%32%46"

theorem isPathForm_formOfSlashes : Cursor.IsPathForm ["a/č", "%2F"] formOfSlashes := by
  have hfirst : Percent.Written (Utf8.encode "a/č".toList) "%61%2f%c4%8D".toList :=
    .escape (.inl rfl) (.inl rfl) (.escape (.inl rfl) (.inr rfl) (.escape (.inr rfl) (.inl rfl)
      (.escape (.inl rfl) (.inl rfl) .nil)))
  have hsecond : Percent.Written (Utf8.encode "%2F".toList) "%252F".toList :=
    .escape (.inl rfl) (.inl rfl) (.unreserved (c := '2') rfl (.unreserved (c := 'F') rfl .nil))
  exact ⟨⟨_, rfl⟩, .segment 1 hfirst (.segment 0 hsecond (.slashes 2))⟩

theorem isPathForm_otherFormOfSlashes : Cursor.IsPathForm ["a/č", "%2F"] otherFormOfSlashes := by
  have hfirst : Percent.Written (Utf8.encode "a/č".toList) "a%2F%C4%8d".toList :=
    .unreserved (c := 'a') rfl (.escape (.inl rfl) (.inl rfl) (.escape (.inl rfl) (.inl rfl)
      (.escape (.inl rfl) (.inr rfl) .nil)))
  have hsecond : Percent.Written (Utf8.encode "%2F".toList) "%25%32%46".toList :=
    .escape (.inl rfl) (.inl rfl) (.escape (.inl rfl) (.inl rfl) (.escape (.inl rfl) (.inl rfl) .nil))
  exact ⟨⟨_, rfl⟩, .segment 0 hfirst (.segment 1 hsecond (.slashes 0))⟩

/-- The escaped slash splits no segment, and the escaped percent sign begins no escape. -/
theorem resolve_formOfSlashes :
    (∀ segment ∈ ["a/č", "%2F"], segment ≠ "") ∧ Cursor.IsPathForm ["a/č", "%2F"] formOfSlashes ∧
      formOfSlashes.utf8ByteSize ≤ Http.Uri.maxBytes ∧
      Cursor.ofUri .get formOfSlashes = .ok { method? := some .get, path := ["a/č", "%2F"] } ∧
      ∀ (α : Type) (r : Router α),
        (Cursor.ofUri .get otherFormOfSlashes).map r.resolve = (Cursor.ofUri .get formOfSlashes).map r.resolve := by
  have hne : ∀ segment ∈ ["a/č", "%2F"], segment ≠ "" := by decide
  have hsize : formOfSlashes.utf8ByteSize ≤ Http.Uri.maxBytes := by decide
  obtain ⟨htext, hothers⟩ := resolve_of_isPathForm .get hne isPathForm_formOfSlashes hsize
  exact ⟨hne, isPathForm_formOfSlashes, hsize, htext,
    hothers otherFormOfSlashes isPathForm_otherFormOfSlashes (by decide)⟩

end Router

end Signpost

import Mathlib.Data.List.Infix
import Mathlib.Data.List.Induction
import Mathlib.Tactic.Common
import Signpost.Url.BaseUrl

/-!
# Normal forms of paths

Reading a url resolves the dot segments of its path, takes backslashes for slashes and escapes the rest. What
it gives are paths of normal segments, and these it leaves as they are.

* `Url.IsNormalSegment`: no dot segment, and nothing in it that is escaped or ends it.
* `isNormalSegment_of_mem_resolve`, `resolve_of_normal`: resolved segments are normal, and normal ones are
  resolved.
* `keep_of_isDots_escape`: an escaped text is a dot segment only if nothing in it was escaped.
* `normalPath_eq_self_iff`: a path is its own normal form exactly if its segments are normal.
-/

namespace Signpost

namespace Url

/-- Segments with a slash in front of each. -/
def slashed (segments : List (List Char)) : List Char := segments.flatMap ('/' :: ·)

@[simp] theorem slashed_nil : slashed [] = [] := rfl

@[simp] theorem slashed_cons (s : List Char) (segments : List (List Char)) :
    slashed (s :: segments) = '/' :: (s ++ slashed segments) := by simp [slashed]

@[simp] theorem slashed_append (segments more : List (List Char)) :
    slashed (segments ++ more) = slashed segments ++ slashed more := by simp [slashed]

theorem slashed_eq_cons {segments : List (List Char)} (hne : segments ≠ []) :
    ∃ cs, slashed segments = '/' :: cs := by
  obtain ⟨s, rest, rfl⟩ := List.exists_cons_of_ne_nil hne
  exact ⟨_, slashed_cons s rest⟩

theorem slashed_replicate_nil (n : Nat) : slashed (List.replicate n []) = List.replicate n '/' := by
  induction n with
  | zero => rfl
  | succ n ih => rw [List.replicate_succ, slashed_cons, ih, List.nil_append, List.replicate_succ]

/-- What holds of a slash and of what stands in the segments holds of all slashed segments. -/
theorem forall_mem_slashed {P : Char → Prop} (hslash : P '/') {segments : List (List Char)}
    (h : ∀ s ∈ segments, ∀ c ∈ s, P c) : ∀ c ∈ slashed segments, P c := by
  intro c hc
  obtain ⟨s, hs, hc⟩ := List.mem_flatMap.1 hc
  rcases List.mem_cons.1 hc with rfl | hc
  · exact hslash
  · exact h s hs c hc

/-- The pieces of slashed segments, behind some other text, are the segments. -/
theorem pieces_slashed {sep : Char → Bool} (hsep : sep '/' = true) {first : List Char}
    (hfirst : ∀ c ∈ first, sep c = false) {segments : List (List Char)}
    (h : ∀ s ∈ segments, ∀ c ∈ s, sep c = false) :
    pieces sep (first ++ slashed segments) = first :: segments := by
  induction segments generalizing first with
  | nil => simpa using pieces_of_forall hfirst
  | cons s segments ih =>
    rw [slashed_cons, pieces_append_cons hfirst hsep, ih (h s (by simp)) fun t ht => h t (by simp [ht])]

/-- Slashed segments determine the segments. -/
theorem slashed_inj {segments others : List (List Char)} (h : ∀ s ∈ segments, ∀ c ∈ s, c ≠ '/')
    (h' : ∀ s ∈ others, ∀ c ∈ s, c ≠ '/') (heq : slashed segments = slashed others) :
    segments = others := by
  have hpieces {all : List (List Char)} (hall : ∀ s ∈ all, ∀ c ∈ s, c ≠ '/') :
      pieces (· = '/') (slashed all) = [] :: all := by
    rw [← List.nil_append (slashed all), pieces_slashed (by decide) (by simp)]
    exact fun s hs c hc => decide_eq_false (hall s hs c hc)
  have hboth := hpieces h
  rw [heq, hpieces h'] at hboth
  exact (List.cons.inj hboth).2.symm

/-! ## Escapes -/

theorem escape_of_forall {keep : Char → Bool} {cs : List Char} (h : ∀ c ∈ cs, keep c = true) :
    Percent.escape keep cs = cs := by
  induction cs with
  | nil => rfl
  | cons c cs ih =>
    have hc : Percent.escapeChar keep c = [c] := by rw [Percent.escapeChar, if_pos (h c (by simp))]
    rw [Percent.escape, List.flatMap_cons, hc, ← Percent.escape, ih fun x hx => h x (by simp [hx])]
    rfl

/-! ## Dot segments -/

/-- The segment stands for the same place or for the place above. -/
def isDots (s : List Char) : Bool := isDot s || isDoubleDot s

theorem isDots_iff {s : List Char} : isDots s = true ↔
    s.map Char.toLower ∈ [".", "%2e", "..", ".%2e", "%2e.", "%2e%2e"].map String.toList := by
  have htext (text : String) : String.ofList (s.map Char.toLower) = text ↔
      s.map Char.toLower = text.toList := by
    rw [← String.toList_inj, String.toList_ofList]
  simp [isDots, isDot, isDoubleDot, htext, or_assoc]

/-- An escape in a dot segment is that of a dot. -/
theorem toLower_of_infix_isDots {s : List Char} (hs : isDots s = true) {x y : Char}
    (h : ['%', x, y] <:+: s) : x.toLower = '2' ∧ y.toLower = 'e' := by
  have hlower : ['%', x.toLower, y.toLower] <:+: s.map Char.toLower := h.map Char.toLower
  have hdots := isDots_iff.1 hs
  generalize s.map Char.toLower = lower at hlower hdots
  simp only [List.map_cons, List.map_nil, List.mem_cons, List.not_mem_nil, or_false] at hdots
  rcases hdots with rfl | rfl | rfl | rfl | rfl | rfl <;>
    simp [List.infix_cons_iff, List.cons_prefix_cons] at hlower <;> exact hlower

/-- An escaped text is a dot segment only if nothing in it was escaped. -/
theorem keep_of_isDots_escape {keep : Char → Bool} (hdot : keep '.' = true) {s : List Char}
    (h : isDots (Percent.escape keep s) = true) : ∀ c ∈ s, keep c = true := by
  intro c hc
  by_contra hkeep
  obtain ⟨b, bs, hbytes⟩ := List.exists_cons_of_ne_nil (String.utf8EncodeChar_ne_nil (c := c))
  have hinfix : Percent.escapeByte b <:+: Percent.escape keep s := by
    obtain ⟨before, after, rfl⟩ := List.append_of_mem hc
    refine ⟨Percent.escape keep before, bs.flatMap Percent.escapeByte ++ Percent.escape keep after, ?_⟩
    simp [Percent.escape, Percent.escapeChar, hkeep, hbytes]
  obtain ⟨hx, hy⟩ := toLower_of_infix_isDots h hinfix
  have hlt : b.toNat < 256 := b.toNat_lt
  have all : ∀ n : Fin 16, ((Percent.hexDigit n).toLower = '2' → n = 2) ∧
      ((Percent.hexDigit n).toLower = 'e' → n = 14) := by
    decide
  have hhigh : b.toNat / 16 = 2 := Fin.ext_iff.1 ((all ⟨b.toNat / 16, by omega⟩).1 hx)
  have hlow : b.toNat % 16 = 14 := Fin.ext_iff.1 ((all ⟨b.toNat % 16, by omega⟩).2 hy)
  have hb : b.toNat = 46 := by omega
  have hchar : c = Char.ofNat b.toNat :=
    Utf8.eq_ofNat_of_mem_encodeChar (by rw [hbytes]; exact List.mem_cons_self) (by omega)
  rw [hchar, hb] at hkeep
  exact hkeep hdot

/-! ## Normal segments -/

/-- A segment of a path that reading a url leaves as it is. -/
structure IsNormalSegment (s : List Char) : Prop where
  chars : ∀ c ∈ s, isPathChar c = true ∧ isSlash c = false
  dots : isDots s = false

theorem isNormalSegment_nil : IsNormalSegment [] := ⟨nofun, by decide⟩

/-- What is escaped in a segment that stays is normal. -/
theorem isNormalSegment_escape {s : List Char} (hs : ∀ c ∈ s, isSlash c = false)
    (hdots : isDots s = false) : IsNormalSegment (Percent.escape isPathChar s) where
  chars := Percent.forall_mem_escape (fun c hc hkeep => ⟨hkeep, hs c hc⟩) (by decide) (by decide)
  dots := by
    by_contra h
    have h : isDots (Percent.escape isPathChar s) = true := by simpa using h
    rw [escape_of_forall (keep_of_isDots_escape (by decide) h), hdots] at h
    cases h

theorem mem_of_mem_leave {s : List Char} {above : List (List Char)} (h : s ∈ leave above) : s ∈ above := by
  unfold leave at h
  split at h
  · exact h
  · split_ifs at h
    · exact h
    · exact List.mem_cons_of_mem _ h

/-- Resolved segments are normal. -/
theorem isNormalSegment_of_mem_resolve {segments above : List (List Char)}
    (habove : ∀ s ∈ above, IsNormalSegment s) (h : ∀ s ∈ segments, ∀ c ∈ s, isSlash c = false) :
    ∀ s ∈ resolve above segments, IsNormalSegment s := by
  induction segments generalizing above with
  | nil => simpa [resolve] using habove
  | cons s segments ih =>
    have hrest : ∀ t ∈ segments, ∀ c ∈ t, isSlash c = false := fun t ht => h t (by simp [ht])
    have hleave : ∀ t ∈ leave above, IsNormalSegment t := fun t ht => habove t (mem_of_mem_leave ht)
    have hend {kept : List (List Char)} (hkept : ∀ t ∈ kept, IsNormalSegment t) :
        ∀ t ∈ ([] :: kept).reverse, IsNormalSegment t := by
      intro t ht
      rcases List.mem_cons.1 (List.mem_reverse.1 ht) with rfl | ht
      · exact isNormalSegment_nil
      · exact hkept t ht
    rw [resolve]
    split_ifs with hdouble hlast hdot hlast
    · exact hend hleave
    · exact ih hleave hrest
    · exact hend habove
    · exact ih habove hrest
    · refine ih (fun t ht => ?_) hrest
      rcases List.mem_cons.1 ht with rfl | ht
      · exact isNormalSegment_escape (h s (by simp)) (by simp [isDots, hdouble, hdot])
      · exact habove t ht

/-- Normal segments are resolved. -/
theorem resolve_of_normal (above : List (List Char)) {segments : List (List Char)}
    (h : ∀ s ∈ segments, IsNormalSegment s) : resolve above segments = above.reverse ++ segments := by
  induction segments generalizing above with
  | nil => simp [resolve]
  | cons s segments ih =>
    have hs := h s (by simp)
    obtain ⟨hdot, hdouble⟩ : isDot s = false ∧ isDoubleDot s = false := by
      simpa [isDots] using hs.dots
    rw [resolve, if_neg (by simp [hdouble]), if_neg (by simp [hdot]),
      escape_of_forall fun c hc => (hs.chars c hc).1, ih _ fun t ht => h t (by simp [ht])]
    simp

/-! ## Normal paths -/

theorem exists_normal_of_normalPath (cs : List Char) :
    ∃ segments, (∀ s ∈ segments, IsNormalSegment s) ∧ normalPath cs = String.ofList (slashed segments) :=
  ⟨_, isNormalSegment_of_mem_resolve (by simp) fun p hp c hc => (of_mem_pieces p hp c hc).2, rfl⟩

/-- A path is its own normal form exactly if its segments are normal. -/
theorem normalPath_eq_self_iff {segments : List (List Char)} (hne : segments ≠ [])
    (h : ∀ s ∈ segments, ∀ c ∈ s, c ≠ '/') :
    normalPath (slashed segments) = String.ofList (slashed segments) ↔
      ∀ s ∈ segments, IsNormalSegment s := by
  constructor
  · intro heq
    obtain ⟨resolved, hnormal, hpath⟩ := exists_normal_of_normalPath (slashed segments)
    have hno : ∀ s ∈ resolved, ∀ c ∈ s, c ≠ '/' := by
      rintro s hs c hc rfl
      exact absurd ((hnormal s hs).chars '/' hc).2 (by decide)
    rw [hpath] at heq
    rwa [slashed_inj h hno (String.ofList_inj.1 heq).symm]
  · intro hnormal
    obtain ⟨s, rest, rfl⟩ := List.exists_cons_of_ne_nil hne
    have hpieces : pieces isSlash (slashed (s :: rest)).tail = s :: rest := by
      rw [slashed_cons, List.tail_cons]
      exact pieces_slashed (by decide) (fun c hc => ((hnormal s (by simp)).chars c hc).2)
        fun t ht c hc => ((hnormal t (by simp [ht])).chars c hc).2
    show String.ofList (slashed (resolve [] (pieces isSlash (slashed (s :: rest)).tail))) = _
    rw [hpieces, resolve_of_normal [] hnormal]
    rfl

/-- Without the slashes at its end, a path of normal segments is one of some of them. -/
theorem exists_normal_of_trimmed {segments : List (List Char)} (h : ∀ s ∈ segments, IsNormalSegment s) :
    ∃ kept, (∀ s ∈ kept, IsNormalSegment s) ∧
      ((slashed segments).reverse.dropWhile (· = '/')).reverse = slashed kept := by
  induction segments using List.reverseRecOn with
  | nil => exact ⟨[], by simp, rfl⟩
  | append_singleton segments s ih =>
    rcases hlast : s.reverse with _ | ⟨c, cs⟩
    · obtain ⟨kept, hkept, heq⟩ := ih fun t ht => h t (by simp [ht])
      obtain rfl : s = [] := List.reverse_eq_nil_iff.1 hlast
      exact ⟨kept, hkept, by simpa using heq⟩
    · have hc : c ∈ s := List.mem_reverse.1 (hlast ▸ List.mem_cons_self)
      have hne : c ≠ '/' := by
        rintro rfl
        exact absurd ((h s (by simp)).chars '/' hc).2 (by decide)
      refine ⟨segments ++ [s], h, ?_⟩
      have htext : (slashed (segments ++ [s])).reverse = c :: (cs ++ '/' :: (slashed segments).reverse) := by
        simp [hlast]
      rw [htext, List.dropWhile_cons_of_neg (by simpa using hne), ← htext, List.reverse_reverse]

end Url

end Signpost

import Signpost.Proofs.Matcher.Acceptance
import Signpost.Proofs.Matcher.Order

/-!
# Cursors that are read alike

Two cursors that differ only where a matcher does not look are read with the same result.

* `Alike`: two outcomes with one value and related rests, or two failures with related reasons.
* `Along`: a condition on every primitive matcher that a reading comes to, with the cursor at that place.
  `Throughout`: a condition on every primitive matcher in a matcher.
* `IsResemblance`: a relation of cursors under which matchers of fields and bodies read alike.
  `alike_of_field` and `alike_of_body` say when they do.
* `parse_alike`: then every matcher reads alike, by induction on the matcher.
-/

namespace Signpost.Matcher

variable {α β : Type} {E : MatchError → MatchError → Prop} {R : Cursor → Cursor → Prop} {d e : Cursor}

/-! ## Outcomes -/

/-- The outcomes have the same value and leave related cursors, or both fail, for related reasons. -/
inductive Alike (E : MatchError → MatchError → Prop) (R : Cursor → Cursor → Prop) :
    Outcome MatchError α → Outcome MatchError α → Prop
  | ok (a : α) {d e : Cursor} (h : R d e) : Alike E R (.ok a, d) (.ok a, e)
  | error {x y : MatchError} (h : E x y) {d e : Cursor} : Alike E R (.error x, d) (.error y, e)

/-- Matchers that read alike read the same cursors. -/
theorem Alike.reads_iff {m n : Matcher α} (h : Alike E R (m.parse d) (n.parse e)) :
    m.Reads d ↔ n.Reads e := by
  unfold Reads
  generalize m.parse d = o, n.parse e = o' at h ⊢
  cases h with
  | ok a => exact ⟨fun _ => ⟨a, rfl⟩, fun _ => ⟨a, rfl⟩⟩
  | error => exact ⟨nofun, nofun⟩

/-- Outcomes that are alike stay so when the readings go on alike. -/
theorem Alike.bind {o o' : Outcome MatchError α} {next next' : α → Cursor → Outcome MatchError β} :
    Alike E R o o' → (∀ a d e, o = (.ok a, d) → R d e → Alike E R (next a d) (next' a e)) →
      Alike E R
        (match o with
          | (.error x, d) => (.error x, d)
          | (.ok a, d) => next a d)
        (match o' with
          | (.error x, d) => (.error x, d)
          | (.ok a, d) => next' a d) := by
  rintro (⟨a, hrest⟩ | hxy) hnext
  · exact hnext a _ _ rfl hrest
  · exact .error hxy

/-! ## Fields and bodies -/

/-- The query key of a matcher of fields. -/
def field? : {α : Type} → Matcher α → Option String
  | _, query key _ => some key
  | _, optionalQuery key _ => some key
  | _, queryOr key _ _ => some key
  | _, queryAll key _ => some key
  | _, _ => none

/-- The matcher reads a body. -/
def isBody : {α : Type} → Matcher α → Bool
  | _, form _ => true
  | _, json _ => true
  | _, rawBody => true
  | _, _ => false

theorem first?_congr {q r : Query} {key : String} (h : q.find? key = r.find? key) :
    q.first? key = r.first? key := by
  rw [Query.first?, Query.first?, h]

/-- An optional field with the same values in both cursors is read as the same value. -/
theorem parseOptional_alike {key : String} {c : Conversion String α}
    (hfind : d.query.find? key = e.query.find? key) (hkept : R d e)
    (herased : R { d with query := d.query.erase key } { e with query := e.query.erase key }) :
    (parseOptional key c d).1 = (parseOptional key c e).1 ∧
      R (parseOptional key c d).2 (parseOptional key c e).2 := by
  unfold parseOptional
  rw [first?_congr hfind]
  split
  · exact ⟨rfl, herased⟩
  · exact ⟨rfl, hkept⟩

/-- A field with the same values in both cursors is read alike. -/
theorem alike_of_field (hE : ∀ x, E x x) {m : Matcher α} {key : String} (hm : m.field? = some key)
    (hfind : d.query.find? key = e.query.find? key) (hkept : R d e)
    (herased : R { d with query := d.query.erase key } { e with query := e.query.erase key }) :
    Alike E R (m.parse d) (m.parse e) := by
  cases m with
  | query other c =>
    cases hm
    rw [parse, parse, first?_congr hfind]
    split
    · exact .error (hE _)
    · split
      · exact .ok _ herased
      · exact .error (hE _)
  | optionalQuery other c =>
    cases hm
    obtain ⟨hvalue, hrest⟩ := parseOptional_alike (c := c) hfind hkept herased
    rw [parse, parse, hvalue]
    exact .ok _ hrest
  | queryOr other c default =>
    cases hm
    obtain ⟨hvalue, hrest⟩ := parseOptional_alike (c := c) hfind hkept herased
    rw [parse, parse, hvalue]
    exact .ok _ hrest
  | queryAll other c =>
    cases hm
    rw [parse, parse, hfind]
    split
    · exact .ok _ hkept
    · split
      · exact .ok _ herased
      · exact .error (hE _)
  | _ => cases hm

/-- The same body of the same media type is read alike. -/
theorem alike_of_body (hE : ∀ x, E x x) {m : Matcher α} (hm : m.isBody = true) (hbody : d.body = e.body)
    (htype : d.contentType = e.contentType) (htaken : R { d with body := none } { e with body := none }) :
    Alike E R (m.parse d) (m.parse e) := by
  have hparse (mediaType : Http.MediaType) (missing : Except MatchError Bytes) (codec : BodyCodec α) :
      Alike E R (parseBody mediaType missing codec d) (parseBody mediaType missing codec e) := by
    have hcheck : checkContentType mediaType d = checkContentType mediaType e := by
      rw [checkContentType, checkContentType, htype]
    unfold parseBody
    rw [hcheck, hbody]
    split
    · exact .error (hE _)
    · exact .error (hE _)
    · split
      · exact .ok _ htaken
      · exact .error (hE _)
  cases m with
  | form codec => exact hparse .form (.ok []) codec
  | json codec => exact hparse .json (.error .missingJsonBody) codec
  | rawBody =>
    rw [parse, parse, hbody]
    split
    · exact .ok _ htaken
    · exact .error (hE _)
  | _ => cases hm

/-! ## All matchers -/

/-- Every primitive matcher satisfies `P` with the cursor that it is given when the whole matcher reads
the cursor. Alternatives behind one that reads are given none. -/
def Along (P : {α : Type} → Matcher α → Cursor → Prop) : {α : Type} → Matcher α → Cursor → Prop
  | _, skip first next, d =>
    first.Along P d ∧ ∀ a e, first.parse d = (.ok a, e) → next.Along P e
  | _, take first next, d =>
    first.Along P d ∧ ∀ a e, first.parse d = (.ok a, e) → next.Along P e
  | _, whole inner, d => inner.Along P d
  | _, map inner _, d => inner.Along P d
  | _, choice _ alternative, d =>
    ∀ i, (∀ j < i, ¬(alternative j).Reads d) → (alternative i).Along P d
  | _, m, d => P m d

/-- Every primitive matcher in the matcher satisfies `Q`. -/
def Throughout (Q : {α : Type} → Matcher α → Prop) : {α : Type} → Matcher α → Prop
  | _, skip first next => first.Throughout Q ∧ next.Throughout Q
  | _, take first next => first.Throughout Q ∧ next.Throughout Q
  | _, whole inner => inner.Throughout Q
  | _, map inner _ => inner.Throughout Q
  | _, choice _ alternative => ∀ i, (alternative i).Throughout Q
  | _, m => Q m

theorem throughout_oneOf {Q : {α : Type} → Matcher α → Prop} {ms : List (Matcher α)} :
    (oneOf ms).Throughout Q ↔ ∀ m ∈ ms, m.Throughout Q := by
  rw [oneOf, Throughout, List.forall_mem_iff_get]

/-- Two conditions on all matchers in a matcher are one. -/
theorem Throughout.and {Q Q' : {α : Type} → Matcher α → Prop} {m : Matcher α} (hm : m.Throughout Q)
    (hm' : m.Throughout Q') : m.Throughout fun m => Q m ∧ Q' m := by
  induction m with
  | skip first next ihf ihn | take first next ihf ihn => exact ⟨ihf hm.1 hm'.1, ihn hm.2 hm'.2⟩
  | whole inner ih | map inner c ih => exact ih hm hm'
  | choice count alternative ih => exact fun i => ih i (hm i) (hm' i)
  | _ => exact ⟨hm, hm'⟩

/-- What holds of the matchers in a matcher holds of those that a reading comes to. -/
theorem along_of_throughout {P : {α : Type} → Matcher α → Cursor → Prop}
    {Q : {α : Type} → Matcher α → Prop} (hQ : ∀ {β : Type} {m : Matcher β}, Q m → ∀ d, P m d)
    {m : Matcher α} (hm : m.Throughout Q) (d : Cursor) : m.Along P d := by
  induction m generalizing d with
  | skip first next ihf ihn | take first next ihf ihn => exact ⟨ihf hm.1 d, fun _ e _ => ihn hm.2 e⟩
  | whole inner ih | map inner c ih => exact ih hm d
  | choice count alternative ih => exact fun i _ => ih i (hm i) d
  | _ => exact hQ hm d

/-- Related cursors differ only in fields and bodies, and matchers of these under the condition `P` read
them alike. -/
structure IsResemblance (P : {α : Type} → Matcher α → Cursor → Prop)
    (E : MatchError → MatchError → Prop) (R : Cursor → Cursor → Prop) : Prop where
  refl : ∀ x, E x x
  path : ∀ {d e : Cursor}, R d e → d.path = e.path
  method : ∀ {d e : Cursor}, R d e → d.method = e.method
  withPath : ∀ {d e : Cursor}, R d e → ∀ path, R { d with path } { e with path }
  field : ∀ {α : Type} {m : Matcher α} {key : String}, m.field? = some key →
    ∀ {d e : Cursor}, P m d → R d e → Alike E R (m.parse d) (m.parse e)
  body : ∀ {α : Type} {m : Matcher α}, m.isBody = true →
    ∀ {d e : Cursor}, P m d → R d e → Alike E R (m.parse d) (m.parse e)

variable {P : {α : Type} → Matcher α → Cursor → Prop}

/-- An alternation reads alike if its alternatives do, up to the first that reads. -/
theorem parse_choice_alike (hE : ∀ x, E x x) {count : Nat} {alternative : Fin count → Matcher α}
    (h : ∀ i, (∀ j < i, ¬(alternative j).Reads d) →
      Alike E R ((alternative i).parse d) ((alternative i).parse e)) :
    Alike E R ((choice count alternative).parse d) ((choice count alternative).parse e) := by
  by_cases hex : ∃ i, (alternative i).Reads d
  · -- both cursors are read by the first alternative that reads `d`
    obtain ⟨i, hi, hbefore⟩ := exists_first_of_reads hex
    have hbefore' (j : Fin count) (hj : j < i) : ¬(alternative j).Reads e :=
      fun hr => hbefore j hj ((h j fun k hk => hbefore k (hk.trans hj)).reads_iff.2 hr)
    have hfirst := h i hbefore
    obtain ⟨a, ha⟩ := hi
    obtain ⟨b, hb⟩ := hfirst.reads_iff.1 ⟨a, ha⟩
    rw [parse_choice_of_before hbefore (Prod.ext ha rfl), parse_choice_of_before hbefore' (Prod.ext hb rfl),
      ← ha, ← hb]
    exact hfirst
  · have hnone (i : Fin count) : ¬(alternative i).Reads d := fun hi => hex ⟨i, hi⟩
    have hnone' (i : Fin count) : ¬(alternative i).Reads e :=
      fun hi => hnone i ((h i fun j _ => hnone j).reads_iff.2 hi)
    rw [parse_choice_of_forall hnone, parse_choice_of_forall hnone']
    exact .error (hE _)

/-- Cursors that resemble each other are read alike, as long as the fields and bodies that are read from
the first satisfy `P`. -/
theorem parse_alike (hR : IsResemblance P E R) {m : Matcher α} (hm : m.Along P d) (h : R d e) :
    Alike E R (m.parse d) (m.parse e) := by
  induction m generalizing d e with
  | start => exact .ok () h
  | literal text =>
    rw [parse, parse, ← hR.path h]
    split
    · exact .error (hR.refl _)
    · split_ifs
      · exact .ok () (hR.withPath h _)
      · exact .error (hR.refl _)
  | method expected =>
    rw [parse, parse, ← hR.method h]
    split_ifs
    · exact .ok () h
    · exact .error (hR.refl _)
  | segment c =>
    rw [parse, parse, parseSegment, parseSegment, ← hR.path h]
    split
    · exact .error (hR.refl _)
    · split
      · exact .ok _ (hR.withPath h _)
      · exact .error (hR.refl _)
  | query | optionalQuery | queryOr | queryAll => exact hR.field rfl hm h
  | form | json | rawBody => exact hR.body rfl hm h
  | skip first next ihf ihn =>
    rw [parse, parse]
    refine (ihf hm.1 h).bind fun a d' e' hd' h' => ?_
    have hlast := ihn (hm.2 a d' hd') h'
    generalize next.parse d' = o, next.parse e' = o' at hlast ⊢
    cases hlast with
    | error hxy => exact .error hxy
    | ok _ h'' => exact .ok a h''
  | take first next ihf ihn =>
    rw [parse, parse]
    refine (ihf hm.1 h).bind fun a d' e' hd' h' => ?_
    exact (ihn (hm.2 a d' hd') h').bind fun b _ _ _ h'' => .ok (a, b) h''
  | whole inner ih =>
    rw [parse, parse]
    refine (ih hm h).bind fun a d' e' _ h' => ?_
    rw [← hR.path h']
    split_ifs
    · exact .ok a h'
    · exact .error (hR.refl _)
  | map inner c ih =>
    rw [parse, parse]
    refine (ih hm h).bind fun a d' e' _ h' => ?_
    split
    · exact .ok _ h'
    · exact .error (hR.refl _)
  | choice count alternative ih =>
    exact parse_choice_alike hR.refl fun i hbefore => ih i (hm i hbefore) h

end Signpost.Matcher

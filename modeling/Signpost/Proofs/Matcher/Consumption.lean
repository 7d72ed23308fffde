import Signpost.Proofs.Cursor.Reachable
import Signpost.Proofs.Matcher.Printing

/-!
# Reading takes away

Whatever a matcher reads and whether it succeeds, it only takes parts of the cursor away.

* `Cursor.Consumes`: a cursor and what may be left of it. Segments are taken from the front of the path,
  query keys with all of their values.
* `consumes_parse`: every matcher consumes, by induction on the matcher.
* `parse_of_failed`: primitive matchers and alternations give back what they read when they fail.
* `IsReachable.parse`, `IsReachable.print`: matchers lead from reachable cursors to reachable ones.
-/

namespace Signpost

/-! ## Removing keys -/

namespace Query

/-- Removes some keys one after another. -/
def eraseAll (q : Query) (keys : List String) : Query := keys.foldl erase q

theorem eraseAll_append (q : Query) (keys more : List String) :
    q.eraseAll (keys ++ more) = (q.eraseAll keys).eraseAll more := by
  unfold eraseAll
  rw [List.foldl_append]

/-- A key is removed with all of its values, and the other groups stay as they were. -/
theorem groups_erase {q : Query} (h : q.WellFormed) (key : String) :
    (q.erase key).groups = q.groups.filter (·.1 ≠ key) := by
  obtain ⟨gs⟩ := q
  have hn : (gs.map (·.1)).Nodup := h.1
  clear h
  simp only [erase]
  induction gs with
  | nil => rfl
  | cons g gs ih =>
    rw [List.map_cons, List.nodup_cons] at hn
    by_cases hk : g.1 = key
    · subst hk
      have hrest : gs.filter (·.1 ≠ g.1) = gs := List.filter_eq_self.2 fun x hx =>
        decide_eq_true fun e => hn.1 (List.mem_map.2 ⟨x, hx, e⟩)
      rw [List.eraseP_cons_of_pos (by simp), List.filter_cons_of_neg (by simp), hrest]
    · rw [List.eraseP_cons_of_neg (by simpa using hk), List.filter_cons_of_pos (by simpa using hk),
        ih hn.2]

/-- What is left of a query are its groups with other keys, in their order. -/
theorem groups_eraseAll {q : Query} (h : q.WellFormed) (keys : List String) :
    (q.eraseAll keys).groups = q.groups.filter (·.1 ∉ keys) := by
  induction keys generalizing q with
  | nil => exact (List.filter_eq_self.2 (by simp)).symm
  | cons key keys ih =>
    show ((q.erase key).eraseAll keys).groups = _
    rw [ih (h.erase key), groups_erase h, List.filter_filter]
    congr 1
    funext g
    simp [Bool.and_comm]

end Query

/-! ## What may be left -/

namespace Cursor

/-- The second cursor is what some reading left of the first. -/
structure Consumes (d e : Cursor) : Prop where
  path : e.path <:+ d.path
  query : ∃ keys, e.query = d.query.eraseAll keys
  body : e.body = d.body ∨ e.body = none
  method? : e.method? = d.method?
  contentType : e.contentType = d.contentType
  malformed : e.malformed = d.malformed

variable {d e f : Cursor}

theorem Consumes.refl (d : Cursor) : d.Consumes d :=
  ⟨List.suffix_rfl, ⟨[], rfl⟩, .inl rfl, rfl, rfl, rfl⟩

theorem Consumes.trans (h : d.Consumes e) (h' : e.Consumes f) : d.Consumes f where
  path := h'.path.trans h.path
  query := by
    obtain ⟨keys, hkeys⟩ := h.query
    obtain ⟨more, hmore⟩ := h'.query
    exact ⟨keys ++ more, by rw [Query.eraseAll_append, ← hkeys, hmore]⟩
  body := by
    rcases h'.body with hf | hf
    · rw [hf]
      exact h.body
    · exact .inr hf
  method? := h'.method?.trans h.method?
  contentType := h'.contentType.trans h.contentType
  malformed := h'.malformed.trans h.malformed

/-- Where there was no body, none is left. -/
theorem Consumes.isBodyConsumed (h : d.Consumes e) (hd : d.isBodyConsumed = true) :
    e.isBodyConsumed = true := by
  rcases h.body with hbody | hbody
  · rwa [Cursor.isBodyConsumed, hbody]
  · rw [Cursor.isBodyConsumed, hbody]
    rfl

theorem consumes_path {segment : String} {path : List String} (hpath : d.path = segment :: path) :
    d.Consumes { d with path } :=
  ⟨hpath ▸ List.suffix_cons segment path, ⟨[], rfl⟩, .inl rfl, rfl, rfl, rfl⟩

theorem consumes_erase (d : Cursor) (key : String) :
    d.Consumes { d with query := d.query.erase key } :=
  ⟨List.suffix_rfl, ⟨[key], rfl⟩, .inl rfl, rfl, rfl, rfl⟩

theorem consumes_body (d : Cursor) : d.Consumes { d with body := none } :=
  ⟨List.suffix_rfl, ⟨[], rfl⟩, .inr rfl, rfl, rfl, rfl⟩

end Cursor

namespace Matcher

variable {α : Type}

/-! ## Primitive matchers -/

theorem consumes_parseSegment (c : Conversion String α) (d : Cursor) :
    d.Consumes (parseSegment c d).2 := by
  unfold parseSegment
  split
  · exact .refl d
  · rename_i raw path hpath
    split
    · exact Cursor.consumes_path hpath
    · exact .refl d

theorem consumes_parseOptional (key : String) (c : Conversion String α) (d : Cursor) :
    d.Consumes (parseOptional key c d).2 := by
  unfold parseOptional
  split
  · exact Cursor.consumes_erase d key
  · exact .refl d

theorem consumes_parseBody (mediaType : Http.MediaType) (missing : Except MatchError Bytes)
    (codec : BodyCodec α) (d : Cursor) : d.Consumes (parseBody mediaType missing codec d).2 := by
  unfold parseBody
  split
  · exact .refl d
  · exact .refl d
  · split
    · exact Cursor.consumes_body d
    · exact .refl d

/-! ## Alternations -/

theorem consumes_parseFirst {readers : List (Cursor → Outcome MatchError α)}
    (h : ∀ reader ∈ readers, ∀ d : Cursor, d.Consumes (reader d).2) (d : Cursor) :
    d.Consumes (parseFirst readers d).2 := by
  induction readers with
  | nil => exact .refl d
  | cons reader readers ih =>
    have hfirst := h reader List.mem_cons_self d
    rw [parseFirst]
    generalize reader d = o at hfirst ⊢
    obtain ⟨_ | a, e⟩ := o
    · exact ih fun other hmem => h other (List.mem_cons_of_mem _ hmem)
    · exact hfirst

/-- When no reader succeeds, nothing is read. -/
theorem parseFirst_of_failed {readers : List (Cursor → Outcome MatchError α)} {d : Cursor}
    {e : MatchError} (h : (parseFirst readers d).1 = .error e) :
    parseFirst readers d = (.error .noAlternative, d) := by
  induction readers with
  | nil => rfl
  | cons reader readers ih =>
    rw [parseFirst] at h ⊢
    generalize reader d = o at h ⊢
    obtain ⟨_ | a, rest⟩ := o
    · exact ih h
    · cases h

/-! ## All matchers -/

/-- Every matcher only takes away, also if it fails. -/
theorem consumes_parse (m : Matcher α) (d : Cursor) : d.Consumes (m.parse d).2 := by
  induction m generalizing d with
  | start => exact .refl d
  | literal text =>
    rw [parse]
    split
    · exact .refl d
    · rename_i raw path hpath
      split_ifs
      · exact Cursor.consumes_path hpath
      · exact .refl d
  | method m =>
    rw [parse]
    split_ifs <;> exact .refl d
  | segment c => exact consumes_parseSegment c d
  | query key c =>
    rw [parse]
    split
    · exact .refl d
    · split
      · exact Cursor.consumes_erase d key
      · exact .refl d
  | optionalQuery key c => exact consumes_parseOptional key c d
  | queryOr key c default => exact consumes_parseOptional key c d
  | queryAll key c =>
    rw [parse]
    split
    · exact .refl d
    · split
      · exact Cursor.consumes_erase d key
      · exact .refl d
  | form codec => exact consumes_parseBody .form (.ok []) codec d
  | json codec => exact consumes_parseBody .json (.error .missingJsonBody) codec d
  | rawBody =>
    rw [parse]
    split
    · exact Cursor.consumes_body d
    · exact .refl d
  | skip first next ihf ihn =>
    have hfirst := ihf d
    rw [parse]
    generalize first.parse d = o at hfirst ⊢
    obtain ⟨_ | a, d'⟩ := o
    · exact hfirst
    · have hnext := hfirst.trans (ihn d')
      dsimp only
      generalize next.parse d' = o at hnext ⊢
      obtain ⟨_ | _, e⟩ := o <;> exact hnext
  | take first next ihf ihn =>
    have hfirst := ihf d
    rw [parse]
    generalize first.parse d = o at hfirst ⊢
    obtain ⟨_ | a, d'⟩ := o
    · exact hfirst
    · have hnext := hfirst.trans (ihn d')
      dsimp only
      generalize next.parse d' = o at hnext ⊢
      obtain ⟨_ | _, e⟩ := o <;> exact hnext
  | whole inner ih =>
    have hinner := ih d
    rw [parse]
    generalize inner.parse d = o at hinner ⊢
    obtain ⟨_ | a, e⟩ := o
    · exact hinner
    · dsimp only
      split_ifs <;> exact hinner
  | map inner c ih =>
    have hinner := ih d
    rw [parse]
    generalize inner.parse d = o at hinner ⊢
    obtain ⟨_ | a, e⟩ := o
    · exact hinner
    · dsimp only
      split <;> exact hinner
  | choice count alternative ih =>
    rw [parse]
    refine consumes_parseFirst (fun reader hmem d => ?_) d
    obtain ⟨i, rfl⟩ := List.mem_ofFn.1 hmem
    exact ih i d

/-! ## Failures -/

theorem parseSegment_of_failed {c : Conversion String α} {d : Cursor} {e : MatchError}
    (h : (parseSegment c d).1 = .error e) : (parseSegment c d).2 = d := by
  unfold parseSegment at h ⊢
  split
  · rfl
  · rename_i hpath
    rw [hpath] at h
    split
    · rename_i ha
      simp [ha] at h
    · rfl

theorem parseBody_of_failed {mediaType : Http.MediaType} {missing : Except MatchError Bytes}
    {codec : BodyCodec α} {d : Cursor} {e : MatchError}
    (h : (parseBody mediaType missing codec d).1 = .error e) :
    (parseBody mediaType missing codec d).2 = d := by
  unfold parseBody at h ⊢
  split
  · rfl
  · rfl
  · rename_i hcheck hbody
    rw [hcheck, hbody] at h
    split
    · rename_i ha
      simp [ha] at h
    · rfl

/-- Primitive matchers and alternations. -/
def IsUndivided : {α : Type} → Matcher α → Bool
  | _, skip .. => false
  | _, take .. => false
  | _, whole .. => false
  | _, map .. => false
  | _, _ => true

/-- A primitive matcher or an alternation that fails leaves the cursor as it was. -/
theorem parse_of_failed {m : Matcher α} (hm : m.IsUndivided = true) {d : Cursor} {e : MatchError}
    (h : (m.parse d).1 = .error e) : (m.parse d).2 = d := by
  cases m with
  | start | optionalQuery | queryOr => cases h
  | literal text =>
    rw [parse] at h ⊢
    split
    · rfl
    · rename_i hpath
      rw [hpath] at h
      dsimp only at h
      split_ifs at h ⊢
      rfl
  | method m =>
    rw [parse] at h ⊢
    split_ifs at h ⊢
    rfl
  | segment c => exact parseSegment_of_failed h
  | query key c =>
    rw [parse] at h ⊢
    split
    · rfl
    · rename_i hvalue
      rw [hvalue] at h
      split
      · rename_i ha
        simp [ha] at h
      · rfl
  | queryAll key c =>
    rw [parse] at h ⊢
    split
    · rfl
    · rename_i hfind
      rw [hfind] at h
      split
      · rename_i has
        simp [has] at h
      · rfl
  | form codec => exact parseBody_of_failed h
  | json codec => exact parseBody_of_failed h
  | rawBody =>
    rw [parse] at h ⊢
    split
    · rename_i hbody
      simp [hbody] at h
    · rfl
  | choice count alternative =>
    rw [parse] at h ⊢
    rw [parseFirst_of_failed h]
  | skip | take | whole | map => cases hm

/-- Every matcher consumes, of a reachable cursor whole keys with the other groups left as they were; and
a primitive matcher or an alternation that fails leaves the cursor as it was. -/
theorem parse_consumes_or_restores (m : Matcher α) (d : Cursor) :
    d.Consumes (m.parse d).2 ∧
      (d.IsReachable → ∃ keys : List String,
        (m.parse d).2.query.groups = d.query.groups.filter (·.1 ∉ keys)) ∧
      (m.IsUndivided = true → ∀ e, (m.parse d).1 = .error e → (m.parse d).2 = d) := by
  refine ⟨consumes_parse m d, fun hd => ?_, fun hm e h => parse_of_failed hm h⟩
  obtain ⟨keys, hkeys⟩ := (consumes_parse m d).query
  exact ⟨keys, by rw [hkeys, Query.groups_eraseAll hd.wellFormed]⟩

/-- A search of a number below a page, which reads its text first. -/
def numberedSearch : Matcher (String × Unsigned 8) :=
  start
    |>.skip (literal "search") |>.take (query "q" (.text String))
    |>.take (segment (.text (Unsigned 8)))
    |>.whole |>.map (.case (fun (((), text), n) => (text, n)) fun (text, n) => some (((), text), n))

/-- A search whose number is out of range. -/
def searchCursor : Cursor :=
  ((Cursor.empty.pushSegment "search").pushSegment "256").pushQuery "q" "tea"

/-- What the sequence has read is lost when the number fails, and the alternation gives it back. -/
theorem parse_searchCursor :
    searchCursor.IsReachable ∧ (numberedSearch.parse searchCursor).2 = { path := ["256"] } ∧
      (∃ keys : List String, (numberedSearch.parse searchCursor).2.query.groups =
        searchCursor.query.groups.filter (·.1 ∉ keys)) ∧
      ((oneOf [numberedSearch]).parse searchCursor).1 = .error .noAlternative ∧
      ((oneOf [numberedSearch]).parse searchCursor).2 = searchCursor := by
  have hd : searchCursor.IsReachable :=
    ((Cursor.IsReachable.empty.pushSegment _).pushSegment _).pushQuery _ _
  have hfailed : ((oneOf [numberedSearch]).parse searchCursor).1 = .error .noAlternative := rfl
  exact ⟨hd, rfl, (parse_consumes_or_restores numberedSearch searchCursor).2.1 hd, hfailed,
    (parse_consumes_or_restores (oneOf [numberedSearch]) searchCursor).2.2 rfl _ hfailed⟩

end Matcher

/-! ## Reachable cursors -/

namespace Cursor

variable {α : Type} {d e : Cursor}

theorem IsReachable.drop (hd : d.IsReachable) (n : Nat) :
    IsReachable { d with path := d.path.drop n } := by
  induction n with
  | zero => exact hd
  | succ n ih =>
    have hpop := ih.popSegment
    rw [Cursor.popSegment, List.tail_drop] at hpop
    exact hpop

theorem IsReachable.eraseAll (hd : d.IsReachable) (keys : List String) :
    IsReachable { d with query := d.query.eraseAll keys } := by
  induction keys generalizing d with
  | nil => exact hd
  | cons key keys ih => exact ih (hd.popQuery key)

/-- What is left of a reachable cursor is reachable. -/
theorem IsReachable.of_consumes (hd : d.IsReachable) (h : d.Consumes e) : e.IsReachable := by
  obtain ⟨method?, path, query, body, contentType, malformed⟩ := e
  obtain ⟨⟨before, hpath⟩, ⟨keys, rfl⟩, hbody, rfl, rfl, rfl⟩ := h
  have hrest := (hd.drop before.length).eraseAll keys
  rw [← hpath, List.drop_left] at hrest
  rcases hbody with rfl | rfl
  · exact hrest
  · exact hrest.takeBody

theorem IsReachable.parse (hd : d.IsReachable) (m : Matcher α) : (m.parse d).2.IsReachable :=
  hd.of_consumes (m.consumes_parse d)

theorem isWriting_isReachable : IsWriting fun d e => d.IsReachable → e.IsReachable where
  refl _ := id
  trans h h' := h' ∘ h
  pushSegment _ segment h := h.pushSegment segment
  setMethod _ method h := h.setMethod method
  pushQuery _ key value h := h.pushQuery key value
  merge _ _ hf h := h.merge (hf .empty)

theorem IsReachable.print (hd : d.IsReachable) (m : Matcher α) (a : α) : (m.print a d).2.IsReachable :=
  Matcher.print_writes isWriting_isReachable
    (fun _ => ⟨fun _ bytes h => h.setBody bytes, fun _ mediaType _ h => h.setContentType mediaType⟩) d hd

end Cursor

end Signpost

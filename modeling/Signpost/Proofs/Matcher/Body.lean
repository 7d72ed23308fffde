import Signpost.Proofs.Matcher.Exact
import Signpost.Proofs.Matcher.Order

/-!
# Bodies that are left

A matcher that leaves the body of a request reads the same request with any other body, and without one, if
bodies decide nothing between its alternatives.

* `IsIndifferent`: no form is read where there is no body, and an alternative that is read where there is
  none shares no method and path with an earlier one. `isIndifferent_oneOf` for alternatives that are apart.
* `parse_withBody`: the theorem, by induction on the matcher.
* `body_of_parse`: a body that is not left is one that is written with the value.
-/

namespace Signpost

/-- When the first and the last of three cursors have the same body, so has the one between them. -/
theorem Cursor.Consumes.body_between {d d' e : Cursor} (h : d.Consumes d') (h' : d'.Consumes e)
    (hbody : e.body = d.body) : d'.body = d.body ∧ e.body = d'.body := by
  rcases h.body with hd | hd
  · exact ⟨hd, hbody.trans hd.symm⟩
  · rcases h'.body with he | he
    · exact ⟨he.symm.trans hbody, he⟩
    · exact ⟨hd.trans (he.symm.trans hbody), he.trans hd.symm⟩

namespace Matcher

variable {α β : Type}

/-- Bodies decide nothing between alternatives: no form is read where there is no body, and of two
alternatives the later one needs a body unless no request is admitted by both. -/
@[simp] def IsIndifferent : {α : Type} → Matcher α → Prop
  | _, form codec => codec.decode? [] = none
  | _, skip first next => first.IsIndifferent ∧ next.IsIndifferent
  | _, take first next => first.IsIndifferent ∧ next.IsIndifferent
  | _, whole inner => inner.IsIndifferent
  | _, map inner _ => inner.IsIndifferent
  | _, choice _ alternative => (∀ i, (alternative i).IsIndifferent) ∧
      ∀ i, ∀ j < i, (alternative j).Apart (alternative i) ∨
        ∀ d : Cursor, d.body = none → ¬(alternative i).Reads d
  | _, _ => True

theorem parseOptional_withBody (key : String) (c : Conversion String α) (d : Cursor)
    (body : Option Bytes) : parseOptional key c { d with body } =
      ((parseOptional key c d).1, { (parseOptional key c d).2 with body }) := by
  unfold parseOptional
  dsimp only
  rcases (d.query.first? key).bind c.apply with _ | a <;> rfl

theorem body_parseOptional (key : String) (c : Conversion String α) (d : Cursor) :
    (parseOptional key c d).2.body = d.body :=
  congrArg (fun o => o.2.body) (parseOptional_withBody key c d d.body)

/-- Of two matchers that leave the body together, each does. -/
theorem body_between_parse {first : Matcher α} {next : Matcher β} {d d' e : Cursor} {a : α} {b : β}
    (hfirst : first.parse d = (.ok a, d')) (hnext : next.parse d' = (.ok b, e)) (hleft : e.body = d.body) :
    d'.body = d.body ∧ e.body = d'.body := by
  have hd' : d.Consumes d' := by simpa only [hfirst] using consumes_parse first d
  have he : d'.Consumes e := by simpa only [hnext] using consumes_parse next d'
  exact hd'.body_between he hleft

/-- A matcher that leaves the body reads a cursor with any other body in the same way and leaves that. -/
theorem parse_withBody {m : Matcher α} (hm : m.IsIndifferent) {d e : Cursor} {a : α}
    (h : m.parse d = (.ok a, e)) (hleft : e.body = d.body) (body : Option Bytes) :
    m.parse { d with body } = (.ok a, { e with body }) := by
  induction m generalizing d e body with
  | start =>
    cases h
    rfl
  | literal text =>
    obtain ⟨path, hpath, rfl⟩ := ok_of_parse_literal h
    simp only [parse, hpath, if_pos]
  | method m =>
    obtain ⟨hmethod, rfl⟩ := ok_of_parse_method h
    rw [parse]
    exact if_pos hmethod
  | segment c =>
    obtain ⟨raw, path, hpath, ha, rfl⟩ := ok_of_parseSegment h
    simp only [parse, parseSegment, hpath, ha]
  | query key c =>
    obtain ⟨value, hvalue, ha, rfl⟩ := ok_of_parse_query h
    simp only [parse, hvalue, ha]
  | optionalQuery key c =>
    cases h
    rw [parse, parseOptional_withBody]
  | queryOr key c default =>
    cases h
    rw [parse, parseOptional_withBody]
  | queryAll key c =>
    rw [parse] at h ⊢
    dsimp only
    rcases hfind : d.query.find? key with _ | values
    · rw [hfind] at h
      cases h
      rfl
    · rw [hfind] at h
      dsimp only at h ⊢
      rcases has : convertAll key c values with e' | as
      · rw [has] at h
        cases h
      · rw [has] at h
        cases h
        rfl
  | form codec =>
    obtain ⟨bytes, hbody | ⟨hbody, hmissing⟩, hdecode, rfl⟩ := parseBody_ok h
    · rw [hbody] at hleft
      cases hleft
    · cases hmissing
      rw [show codec.decode? [] = none from hm] at hdecode
      cases hdecode
  | json codec =>
    obtain ⟨bytes, hbody | ⟨hbody, hmissing⟩, -, rfl⟩ := parseBody_ok h
    · rw [hbody] at hleft
      cases hleft
    · cases hmissing
  | rawBody =>
    obtain ⟨hbody, rfl⟩ := ok_of_parse_rawBody h
    rw [hbody] at hleft
    cases hleft
  | skip first next ihf ihn =>
    obtain ⟨d', hfirst, hnext⟩ := ok_of_parse_skip h
    obtain ⟨hbody, hbody'⟩ := body_between_parse hfirst hnext hleft
    simp only [parse, ihf hm.1 hfirst hbody body, ihn hm.2 hnext hbody' body]
  | take first next ihf ihn =>
    obtain ⟨d', hfirst, hnext⟩ := ok_of_parse_take h
    obtain ⟨hbody, hbody'⟩ := body_between_parse hfirst hnext hleft
    simp only [parse, ihf hm.1 hfirst hbody body, ihn hm.2 hnext hbody' body]
  | whole inner ih =>
    obtain ⟨hinner, hpath⟩ := ok_of_parse_whole h
    simp only [parse, ih hm hinner hleft body, if_pos hpath]
  | map inner c ih =>
    obtain ⟨b, hinner, hb⟩ := ok_of_parse_map h
    simp only [parse, ih hm hinner hleft body, hb]
  | choice count alternative ih =>
    obtain ⟨i, hi⟩ := exists_of_parse_choice h
    have hread := ih i (hm.1 i) hi hleft
    refine parse_choice_of_before (fun j hj hother => ?_) (hread body)
    rcases hm.2 i j hj with hapart | hneeds
    · exact hapart.not_reads _ ⟨hother, a, congrArg Prod.fst (hread body)⟩
    · exact hneeds { d with body := none } rfl ⟨a, congrArg Prod.fst (hread none)⟩

/-- An exact matcher leaves the body or reads a value that is written with a body. -/
theorem body_of_parse {m : Matcher α} (hm : m.IsExact) {d e : Cursor} {a : α}
    (h : m.parse d = (.ok a, e)) : e.body = d.body ∨ m.usesBody a = true := by
  induction m generalizing d e with
  | start =>
    cases h
    exact .inl rfl
  | literal text =>
    obtain ⟨path, -, rfl⟩ := ok_of_parse_literal h
    exact .inl rfl
  | method m =>
    obtain ⟨-, rfl⟩ := ok_of_parse_method h
    exact .inl rfl
  | segment c =>
    obtain ⟨raw, path, -, -, rfl⟩ := ok_of_parseSegment h
    exact .inl rfl
  | query key c =>
    obtain ⟨value, -, -, rfl⟩ := ok_of_parse_query h
    exact .inl rfl
  | optionalQuery key c | queryOr key c =>
    cases h
    exact .inl (body_parseOptional key c d)
  | queryAll key c =>
    rcases ok_of_parse_queryAll h with ⟨-, rfl⟩ | ⟨values, -, -, rfl⟩
    · exact .inl rfl
    · exact .inl rfl
  | form | json | rawBody => exact .inr rfl
  | skip first next ihf ihn =>
    obtain ⟨d', hfirst, hnext⟩ := ok_of_parse_skip h
    rcases ihf hm.1 hfirst, ihn hm.2 hnext with ⟨hf | hf, hn | hn⟩
    · exact .inl (hn.trans hf)
    · exact .inr (by rw [usesBody, hn, Bool.or_true])
    · exact .inr (by rw [usesBody, hf, Bool.true_or])
    · exact .inr (by rw [usesBody, hf, Bool.true_or])
  | take first next ihf ihn =>
    obtain ⟨d', hfirst, hnext⟩ := ok_of_parse_take h
    rcases ihf hm.1 hfirst, ihn hm.2 hnext with ⟨hf | hf, hn | hn⟩
    · exact .inl (hn.trans hf)
    · exact .inr (by rw [usesBody, hn, Bool.or_true])
    · exact .inr (by rw [usesBody, hf, Bool.true_or])
    · exact .inr (by rw [usesBody, hf, Bool.true_or])
  | whole inner ih => exact ih hm (ok_of_parse_whole h).1
  | map inner c ih =>
    obtain ⟨b, hinner, hb⟩ := ok_of_parse_map h
    rw [usesBody, hm.2 b a hb, Option.elim_some]
    exact ih hm.1 hinner
  | choice count alternative ih =>
    obtain ⟨i, hi⟩ := exists_of_parse_choice h
    refine (ih i (hm.1 i) hi).imp_right fun huses => ?_
    rw [usesBody, List.any_eq_true]
    exact ⟨_, List.mem_ofFn.2 ⟨i, rfl⟩, huses⟩

/-! ## Alternatives -/

/-- Alternatives are indifferent if each is and the later of two that are not apart needs a body. -/
theorem isIndifferent_oneOf {ms : List (Matcher α)} (h : ∀ m ∈ ms, m.IsIndifferent)
    (hpairs : ms.Pairwise fun m n => m.Apart n ∨ ∀ d : Cursor, d.body = none → ¬n.Reads d) :
    (oneOf ms).IsIndifferent :=
  ⟨fun i => h _ (List.get_mem ms i), fun i j hlt => List.pairwise_iff_get.1 hpairs j i hlt⟩

theorem isIndifferent_of_conflicts {ms : List (Matcher α)} (h : ∀ m ∈ ms, m.IsIndifferent)
    (hconflicts : ms.Pairwise fun m n => m.conflicts n = true) : (oneOf ms).IsIndifferent :=
  isIndifferent_oneOf h (hconflicts.imp fun hmn => .inl (apart_of_conflicts hmn))

end Matcher

end Signpost

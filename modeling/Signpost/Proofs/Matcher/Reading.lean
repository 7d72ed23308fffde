import Mathlib.Data.List.Forall2
import Mathlib.Tactic.Common
import Signpost.Matcher.Basic

/-!
# Successful reads

What a matcher did when it read a value, one lemma for each kind of matcher.

* `ok_of_parse_skip`, `ok_of_parse_take`, `ok_of_parse_whole`, `ok_of_parse_map`: the parts of a
  sequence were read one after another.
* `exists_of_parse_choice`, `parse_choice_of_before`: an alternation reads with one of its alternatives,
  and with the first that reads.
* `hasDecodedBodies_of_parse`: the bodies in a value that is read are values that their codecs decode.
-/

namespace Signpost.Matcher

variable {α β : Type}

/-- The matcher reads some value from the cursor. -/
def Reads (m : Matcher α) (d : Cursor) : Prop := ∃ a, (m.parse d).1 = .ok a

theorem reads_iff_isOk {m : Matcher α} {d : Cursor} : m.Reads d ↔ (m.parse d).1.isOk = true := by
  unfold Reads
  rcases (m.parse d).1 with e | a <;> simp [Except.isOk, Except.toBool]

instance (m : Matcher α) (d : Cursor) : Decidable (m.Reads d) := decidable_of_iff _ reads_iff_isOk.symm

/-! ## Primitive matchers -/

theorem ok_of_parse_literal {text : String} {d e : Cursor} (h : (literal text).parse d = (.ok (), e)) :
    ∃ path, d.path = text :: path ∧ e = { d with path } := by
  rw [parse] at h
  split at h
  · simp at h
  · rename_i raw path hpath
    split_ifs at h with ht
    · cases h
      subst ht
      exact ⟨path, hpath, rfl⟩
    · simp at h

theorem ok_of_parse_method {m : Http.Method} {d e : Cursor} (h : (method m).parse d = (.ok (), e)) :
    d.method = m ∧ e = d := by
  rw [parse] at h
  split_ifs at h with hm
  · cases h
    exact ⟨hm, rfl⟩
  · simp at h

theorem ok_of_parseSegment {c : Conversion String α} {d e : Cursor} {a : α}
    (h : parseSegment c d = (.ok a, e)) :
    ∃ raw path, d.path = raw :: path ∧ c.apply raw = some a ∧ e = { d with path } := by
  unfold parseSegment at h
  split at h
  · simp at h
  · rename_i raw path hpath
    split at h
    · rename_i b hb
      cases h
      exact ⟨raw, path, hpath, hb, rfl⟩
    · simp at h

theorem first?_of_find? {q : Query} {key value : String} {values : List String}
    (h : q.find? key = some (value :: values)) : q.first? key = some value := by
  rw [Query.first?, h]

theorem first?_of_find?_eq_none {q : Query} {key : String} (h : q.find? key = none) :
    q.first? key = none := by
  rw [Query.first?, h]

theorem find?_of_first? {q : Query} {key value : String} (h : q.first? key = some value) :
    ∃ more, q.find? key = some (value :: more) := by
  unfold Query.first? at h
  split at h
  · rename_i v more hfind
    cases h
    exact ⟨more, hfind⟩
  · cases h

theorem ok_of_parse_query {key : String} {c : Conversion String α} {d e : Cursor} {a : α}
    (h : (query key c).parse d = (.ok a, e)) :
    ∃ value, d.query.first? key = some value ∧ c.apply value = some a ∧
      e = { d with query := d.query.erase key } := by
  rw [parse] at h
  split at h
  · simp at h
  · rename_i value hvalue
    split at h
    · rename_i ha
      cases h
      exact ⟨value, hvalue, ha, rfl⟩
    · simp at h

/-- An optional field is taken with its first value, or left in place. -/
theorem parseOptional_cases (key : String) (c : Conversion String α) (d : Cursor) :
    (∃ a value more, parseOptional key c d = (some a, { d with query := d.query.erase key }) ∧
        d.query.find? key = some (value :: more) ∧ c.apply value = some a) ∨
      parseOptional key c d = (none, d) := by
  unfold parseOptional
  split
  · rename_i a ha
    obtain ⟨value, hvalue, ha⟩ := Option.bind_eq_some_iff.1 ha
    obtain ⟨more, hmore⟩ := find?_of_first? hvalue
    exact .inl ⟨a, value, more, rfl, hmore, ha⟩
  · exact .inr rfl

/-- An optional field changes neither method nor path. -/
theorem parseOptional_keeps (key : String) (c : Conversion String α) (d : Cursor) :
    (parseOptional key c d).2.method = d.method ∧ (parseOptional key c d).2.path = d.path := by
  rcases parseOptional_cases key c d with ⟨a, value, more, hp, -⟩ | hp
  · rw [hp]
    exact ⟨rfl, rfl⟩
  · rw [hp]
    exact ⟨rfl, rfl⟩

theorem forall₂_of_convertAll {key : String} {c : Conversion String α} {values : List String}
    {as : List α} (h : convertAll key c values = .ok as) :
    List.Forall₂ (fun a value => c.apply value = some a) as values := by
  induction values generalizing as with
  | nil =>
    cases h
    exact .nil
  | cons value values ih =>
    rw [convertAll, List.mapM_cons] at h
    rcases ha : c.apply value with _ | a
    · rw [ha] at h
      cases h
    · rw [ha] at h
      rcases has : convertAll key c values with e | as'
      · rw [convertAll] at has
        simp only [has] at h
        cases h
      · have hs := has
        rw [convertAll] at hs
        simp only [hs] at h
        cases h
        exact .cons ha (ih has)

theorem ok_of_parse_queryAll {key : String} {c : Conversion String α} {d e : Cursor} {as : List α}
    (h : (queryAll key c).parse d = (.ok as, e)) :
    (as = [] ∧ e = d) ∨
      ∃ values, d.query.find? key = some values ∧
        List.Forall₂ (fun a value => c.apply value = some a) as values ∧
        e = { d with query := d.query.erase key } := by
  rw [parse] at h
  split at h
  · cases h
    exact .inl ⟨rfl, rfl⟩
  · rename_i values hfind
    split at h
    · rename_i has
      cases h
      exact .inr ⟨values, hfind, forall₂_of_convertAll has, rfl⟩
    · simp at h

theorem ok_of_parse_rawBody {d e : Cursor} {bytes : Bytes}
    (h : rawBody.parse d = (.ok bytes, e)) :
    d.body = some bytes ∧ e = { d with body := none } := by
  rw [parse] at h
  split at h
  · rename_i hbody
    cases h
    exact ⟨hbody, rfl⟩
  · simp at h

theorem parseBody_ok {mediaType : Http.MediaType} {missing : Except MatchError Bytes}
    {codec : BodyCodec α} {a : α} {d e : Cursor}
    (h : parseBody mediaType missing codec d = (.ok a, e)) :
    ∃ bytes, (d.body = some bytes ∨ d.body = none ∧ missing = .ok bytes) ∧
      codec.decode? bytes = some a ∧ e = { d with body := none } := by
  unfold parseBody at h
  split at h
  · simp at h
  · simp at h
  · rename_i bytes hcheck hbody
    split at h
    · rename_i b hb
      obtain ⟨hab, rfl⟩ := Prod.mk.inj h
      cases hab
      refine ⟨bytes, ?_, hb, rfl⟩
      cases hd : d.body with
      | none =>
        rw [hd] at hbody
        exact .inr ⟨rfl, hbody⟩
      | some found =>
        rw [hd] at hbody
        exact .inl (by rw [← Except.ok.inj hbody])
    · simp at h

/-! ## Sequences -/

theorem ok_of_parse_skip {first : Matcher α} {next : Matcher Unit} {d e : Cursor} {a : α}
    (h : (skip first next).parse d = (.ok a, e)) :
    ∃ d', first.parse d = (.ok a, d') ∧ next.parse d' = (.ok (), e) := by
  rw [parse] at h
  split at h
  · simp at h
  · rename_i b d' hb
    split at h
    · simp at h
    · rename_i e' hn
      cases h
      exact ⟨d', hb, hn⟩

theorem ok_of_parse_take {first : Matcher α} {next : Matcher β} {d e : Cursor} {a : α} {b : β}
    (h : (take first next).parse d = (.ok (a, b), e)) :
    ∃ d', first.parse d = (.ok a, d') ∧ next.parse d' = (.ok b, e) := by
  rw [parse] at h
  split at h
  · simp at h
  · rename_i b' d' hb
    split at h
    · simp at h
    · rename_i c e' hn
      cases h
      exact ⟨d', hb, hn⟩

theorem ok_of_parse_whole {inner : Matcher α} {d e : Cursor} {a : α}
    (h : (whole inner).parse d = (.ok a, e)) : inner.parse d = (.ok a, e) ∧ e.path = [] := by
  rw [parse] at h
  split at h
  · simp at h
  · rename_i b d' hb
    split_ifs at h with hpath
    · cases h
      exact ⟨hb, hpath⟩
    · simp at h

theorem ok_of_parse_map {inner : Matcher α} {c : Conversion α β} {d e : Cursor} {b : β}
    (h : (map inner c).parse d = (.ok b, e)) :
    ∃ a, inner.parse d = (.ok a, e) ∧ c.apply a = some b := by
  rw [parse] at h
  split at h
  · simp at h
  · rename_i a d' ha
    split at h
    · rename_i b' hb
      cases h
      exact ⟨a, ha, hb⟩
    · simp at h

/-! ## Alternations -/

theorem parseFirst_of_before {readers : List (Cursor → Outcome MatchError α)} {d e : Cursor} {a : α}
    (i : Nat) (hi : i < readers.length)
    (hbefore : ∀ j (hj : j < i), ¬∃ b, (readers[j] d).1 = .ok b) (ha : readers[i] d = (.ok a, e)) :
    parseFirst readers d = (.ok a, e) := by
  induction readers generalizing i with
  | nil => exact absurd hi (Nat.not_lt_zero i)
  | cons reader readers ih =>
    rw [parseFirst]
    cases i with
    | zero =>
      rw [List.getElem_cons_zero] at ha
      rw [ha]
    | succ i =>
      have h0 := hbefore 0 (Nat.succ_pos i)
      rw [List.getElem_cons_zero] at h0
      rcases hr : reader d with ⟨e' | b, d'⟩
      · refine ih i (Nat.lt_of_succ_lt_succ hi) (fun j hj => ?_) ha
        exact hbefore (j + 1) (Nat.succ_lt_succ hj)
      · exact absurd ⟨b, by rw [hr]⟩ h0

/-- An alternation reads with the alternative before which none reads the cursor. -/
theorem parse_choice_of_before {count : Nat} {alternative : Fin count → Matcher α} {d e : Cursor}
    {a : α} {i : Fin count} (hbefore : ∀ j < i, ¬(alternative j).Reads d)
    (ha : (alternative i).parse d = (.ok a, e)) : (choice count alternative).parse d = (.ok a, e) := by
  rw [parse]
  refine parseFirst_of_before i (by simp) (fun j hj => ?_) (by simpa using ha)
  rw [List.getElem_ofFn]
  exact hbefore ⟨j, by omega⟩ hj

theorem mem_of_parseFirst {readers : List (Cursor → Outcome MatchError α)} {d e : Cursor} {a : α}
    (h : parseFirst readers d = (.ok a, e)) : ∃ reader ∈ readers, reader d = (.ok a, e) := by
  induction readers with
  | nil => cases (Prod.mk.inj h).1
  | cons reader readers ih =>
    rw [parseFirst] at h
    split at h
    · rename_i b rest hr
      exact ⟨reader, List.mem_cons_self, hr.trans h⟩
    · obtain ⟨other, hmem, ho⟩ := ih h
      exact ⟨other, List.mem_cons_of_mem _ hmem, ho⟩

/-- What an alternation reads is read by one of its alternatives. -/
theorem exists_of_parse_choice {count : Nat} {alternative : Fin count → Matcher α} {d e : Cursor}
    {a : α} (h : (choice count alternative).parse d = (.ok a, e)) :
    ∃ i, (alternative i).parse d = (.ok a, e) := by
  rw [parse] at h
  obtain ⟨reader, hmem, hr⟩ := mem_of_parseFirst h
  obtain ⟨i, rfl⟩ := List.mem_ofFn.1 hmem
  exact ⟨i, hr⟩

/-! ## Bodies -/

/-- Every body in the value is one that its codec decodes. -/
def HasDecodedBodies : {α : Type} → Matcher α → α → Prop
  | _, form codec, a => ∃ bytes, codec.decode? bytes = some a
  | _, json codec, a => ∃ bytes, codec.decode? bytes = some a
  | _, skip first _, a => first.HasDecodedBodies a
  | _, take first next, p => first.HasDecodedBodies p.1 ∧ next.HasDecodedBodies p.2
  | _, whole inner, a => inner.HasDecodedBodies a
  | _, map inner c, b => ∃ a, c.apply a = some b ∧ inner.HasDecodedBodies a
  | _, choice _ alternative, a => ∃ i, (alternative i).HasDecodedBodies a
  | _, _, _ => True

/-- The bodies in what is read are decoded. -/
theorem hasDecodedBodies_of_parse {m : Matcher α} {d e : Cursor} {a : α} (h : m.parse d = (.ok a, e)) :
    m.HasDecodedBodies a := by
  induction m generalizing d e with
  | form codec | json codec =>
    obtain ⟨bytes, -, hdecode, -⟩ := parseBody_ok h
    exact ⟨bytes, hdecode⟩
  | skip first next ihf ihn =>
    obtain ⟨d', hfirst, -⟩ := ok_of_parse_skip h
    exact ihf hfirst
  | take first next ihf ihn =>
    obtain ⟨d', hfirst, hnext⟩ := ok_of_parse_take h
    exact ⟨ihf hfirst, ihn hnext⟩
  | whole inner ih => exact ih (ok_of_parse_whole h).1
  | map inner c ih =>
    obtain ⟨b, hinner, hb⟩ := ok_of_parse_map h
    exact ⟨b, hb, ih hinner⟩
  | choice count alternative ih =>
    obtain ⟨i, hi⟩ := exists_of_parse_choice h
    exact ⟨i, ih i hi⟩
  | _ => trivial

end Signpost.Matcher

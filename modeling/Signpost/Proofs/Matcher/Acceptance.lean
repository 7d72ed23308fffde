import Mathlib.Data.Fintype.Basic
import Mathlib.Order.WellFounded
import Signpost.Proofs.Matcher.Shape

/-!
# What a matcher accepts

Which cursors a matcher reads, whatever the values are that it reads from them.

* `ReadsThen`: the matcher reads a cursor and leaves one with some property. There is one rule for each
  matcher, so that the requests of a sequence are found by rewriting from its front.
* `reads_case_whole`: an alternative for a case accepts what its sequence reads up to the end of the path.
* `reads_choice`, `reads_oneOf`: an alternation accepts what one of its alternatives does.
* `not_readsThen_form`, `not_readsThen_json`: a record is not read where there is no body.
-/

namespace Signpost.Matcher

variable {α β : Type} {K : Cursor → Prop} {d : Cursor}

/-- The matcher reads the cursor and leaves one with the property `K`. -/
def ReadsThen (m : Matcher α) (K : Cursor → Prop) (d : Cursor) : Prop :=
  ∃ a e, m.parse d = (.ok a, e) ∧ K e

/-! ## Primitive matchers -/

@[simp] theorem readsThen_start : start.ReadsThen K d ↔ K d := by
  constructor
  · rintro ⟨a, e, h, hK⟩
    cases h
    exact hK
  · exact fun hK => ⟨(), d, rfl, hK⟩

@[simp] theorem readsThen_literal {text : String} :
    (literal text).ReadsThen K d ↔ ∃ path, d.path = text :: path ∧ K { d with path } := by
  constructor
  · rintro ⟨⟨⟩, e, h, hK⟩
    obtain ⟨path, hpath, rfl⟩ := ok_of_parse_literal h
    exact ⟨path, hpath, hK⟩
  · rintro ⟨path, hpath, hK⟩
    exact ⟨(), _, by rw [parse, hpath]; exact if_pos rfl, hK⟩

@[simp] theorem readsThen_method {m : Http.Method} :
    (method m).ReadsThen K d ↔ d.method = m ∧ K d := by
  constructor
  · rintro ⟨⟨⟩, e, h, hK⟩
    obtain ⟨hm, rfl⟩ := ok_of_parse_method h
    exact ⟨hm, hK⟩
  · rintro ⟨hm, hK⟩
    exact ⟨(), d, by rw [parse, if_pos hm], hK⟩

@[simp] theorem readsThen_segment {c : Conversion String α} : (segment c).ReadsThen K d ↔
    ∃ text path, d.path = text :: path ∧ (c.apply text).isSome = true ∧ K { d with path } := by
  constructor
  · rintro ⟨a, e, h, hK⟩
    obtain ⟨text, path, hpath, ha, rfl⟩ := ok_of_parseSegment h
    exact ⟨text, path, hpath, by rw [ha, Option.isSome_some], hK⟩
  · rintro ⟨text, path, hpath, hsome, hK⟩
    obtain ⟨a, ha⟩ := Option.isSome_iff_exists.1 hsome
    exact ⟨a, _, by rw [parse, parseSegment, hpath]; simp only [ha], hK⟩

@[simp] theorem readsThen_query {key : String} {c : Conversion String α} :
    (query key c).ReadsThen K d ↔ ∃ value, d.query.first? key = some value ∧
      (c.apply value).isSome = true ∧ K { d with query := d.query.erase key } := by
  constructor
  · rintro ⟨a, e, h, hK⟩
    obtain ⟨value, hvalue, ha, rfl⟩ := ok_of_parse_query h
    exact ⟨value, hvalue, by rw [ha, Option.isSome_some], hK⟩
  · rintro ⟨value, hvalue, hsome, hK⟩
    obtain ⟨a, ha⟩ := Option.isSome_iff_exists.1 hsome
    exact ⟨a, _, by rw [parse, hvalue]; simp only [ha], hK⟩

/-! ## Fields that may be missing -/

@[simp] theorem readsThen_optionalQuery {key : String} {c : Conversion String α} :
    (optionalQuery key c).ReadsThen K d ↔ K (parseOptional key c d).2 := by
  constructor
  · rintro ⟨a, e, h, hK⟩
    cases h
    exact hK
  · exact fun hK => ⟨_, _, rfl, hK⟩

@[simp] theorem readsThen_queryOr [DecidableEq α] {key : String} {c : Conversion String α} {default : α} :
    (queryOr key c default).ReadsThen K d ↔ K (parseOptional key c d).2 := by
  constructor
  · rintro ⟨a, e, h, hK⟩
    cases h
    exact hK
  · exact fun hK => ⟨_, _, rfl, hK⟩

@[simp] theorem path_parseOptional (key : String) (c : Conversion String α) (d : Cursor) :
    (parseOptional key c d).2.path = d.path := (parseOptional_keeps key c d).2

/-- A conversion that refuses nothing converts all values. -/
theorem exists_convertAll (key : String) {c : Conversion String α} (hc : ∀ text, (c.apply text).isSome = true)
    (values : List String) : ∃ as, convertAll key c values = .ok as := by
  induction values with
  | nil => exact ⟨[], rfl⟩
  | cons value values ih =>
    obtain ⟨a, ha⟩ := Option.isSome_iff_exists.1 (hc value)
    obtain ⟨as, has⟩ := ih
    rw [convertAll] at has ⊢
    exact ⟨a :: as, by rw [List.mapM_cons, has]; simp only [ha]; rfl⟩

/-- All values of a key are read, if their conversion refuses nothing. -/
theorem readsThen_queryAll {key : String} {c : Conversion String α}
    (hc : ∀ text, (c.apply text).isSome = true) :
    (queryAll key c).ReadsThen (fun e => e.path = []) d ↔ d.path = [] := by
  constructor
  · rintro ⟨as, e, h, hpath⟩
    rcases ok_of_parse_queryAll h with ⟨-, rfl⟩ | ⟨values, -, -, rfl⟩
    · exact hpath
    · exact hpath
  · intro hpath
    rcases hfind : d.query.find? key with _ | values
    · exact ⟨[], d, by rw [parse, hfind], hpath⟩
    · obtain ⟨as, has⟩ := exists_convertAll key hc values
      exact ⟨as, { d with query := d.query.erase key }, by rw [parse, hfind]; simp only [has], hpath⟩

/-! ## Bodies -/

/-- Without a body no value is read of which the empty body is none. -/
theorem not_readsThen_form {codec : BodyCodec α} (hd : d.body.getD [] = [])
    (hcodec : codec.decode? [] = none) : ¬(form codec).ReadsThen K d := by
  rintro ⟨a, e, h, -⟩
  obtain ⟨bytes, hbody | ⟨-, hmissing⟩, hdecode, -⟩ := parseBody_ok h
  · rw [hbody, Option.getD_some] at hd
    rw [hd, hcodec] at hdecode
    cases hdecode
  · cases hmissing
    rw [hcodec] at hdecode
    cases hdecode

theorem not_readsThen_json {codec : BodyCodec α} (hd : d.body.getD [] = [])
    (hcodec : codec.decode? [] = none) : ¬(json codec).ReadsThen K d := by
  rintro ⟨a, e, h, -⟩
  obtain ⟨bytes, hbody | ⟨-, hmissing⟩, hdecode, -⟩ := parseBody_ok h
  · rw [hbody, Option.getD_some] at hd
    rw [hd, hcodec] at hdecode
    cases hdecode
  · cases hmissing

/-! ## Sequences -/

@[simp] theorem readsThen_skip {first : Matcher α} {next : Matcher Unit} :
    (skip first next).ReadsThen K d ↔ first.ReadsThen (next.ReadsThen K) d := by
  constructor
  · rintro ⟨a, e, h, hK⟩
    obtain ⟨d', hfirst, hnext⟩ := ok_of_parse_skip h
    exact ⟨a, d', hfirst, (), e, hnext, hK⟩
  · rintro ⟨a, d', hfirst, ⟨⟩, e, hnext, hK⟩
    exact ⟨a, e, by rw [parse, hfirst]; simp only [hnext], hK⟩

@[simp] theorem readsThen_take {first : Matcher α} {next : Matcher β} :
    (take first next).ReadsThen K d ↔ first.ReadsThen (next.ReadsThen K) d := by
  constructor
  · rintro ⟨⟨a, b⟩, e, h, hK⟩
    obtain ⟨d', hfirst, hnext⟩ := ok_of_parse_take h
    exact ⟨a, d', hfirst, b, e, hnext, hK⟩
  · rintro ⟨a, d', hfirst, b, e, hnext, hK⟩
    exact ⟨(a, b), e, by rw [parse, hfirst]; simp only [hnext], hK⟩

/-- An alternative for a case accepts what its sequence reads up to the end of the path. -/
@[simp] theorem reads_case_whole {inner : Matcher α} {wrap : α → β} {unwrap : β → Option α} :
    ((whole inner).map (.case wrap unwrap)).Reads d ↔ inner.ReadsThen (fun e => e.path = []) d := by
  constructor
  · rintro ⟨b, hb⟩
    obtain ⟨a, hwhole, -⟩ := ok_of_parse_map (Prod.ext hb rfl)
    obtain ⟨hinner, hpath⟩ := ok_of_parse_whole hwhole
    exact ⟨a, _, hinner, hpath⟩
  · rintro ⟨a, e, hinner, hpath⟩
    exact ⟨wrap a, by rw [parse, parse, hinner]; simp only [if_pos hpath]; rfl⟩

/-! ## Alternations -/

/-- Where some alternative reads the cursor, there is a first that does. -/
theorem exists_first_of_reads {count : Nat} {alternative : Fin count → Matcher α}
    (h : ∃ i, (alternative i).Reads d) :
    ∃ i, (alternative i).Reads d ∧ ∀ j < i, ¬(alternative j).Reads d := by
  obtain ⟨i, hi, hleast⟩ := wellFounded_lt.has_min {i | (alternative i).Reads d} h
  exact ⟨i, hi, fun j hj hreads => hleast j hreads hj⟩

/-- An alternation accepts what one of its alternatives does. -/
theorem reads_choice {count : Nat} {alternative : Fin count → Matcher α} :
    (choice count alternative).Reads d ↔ ∃ i, (alternative i).Reads d := by
  constructor
  · rintro ⟨a, ha⟩
    obtain ⟨i, hi⟩ := exists_of_parse_choice (Prod.ext ha rfl)
    exact ⟨i, a, congrArg Prod.fst hi⟩
  · intro hex
    obtain ⟨i, ⟨a, ha⟩, hbefore⟩ := exists_first_of_reads hex
    exact ⟨a, congrArg Prod.fst (parse_choice_of_before hbefore (Prod.ext ha rfl))⟩

theorem reads_oneOf {ms : List (Matcher α)} : (oneOf ms).Reads d ↔ ∃ m ∈ ms, m.Reads d := by
  rw [oneOf, reads_choice]
  constructor
  · rintro ⟨i, hi⟩
    exact ⟨_, List.get_mem ms i, hi⟩
  · rintro ⟨m, hm, hreads⟩
    obtain ⟨i, rfl⟩ := List.get_of_mem hm
    exact ⟨i, hreads⟩

/-- A matcher all of whose shapes are closed leaves no segment. -/
theorem path_eq_nil_of_parse {m : Matcher α} (h : ∀ s ∈ m.shapes, s.closed = true) {e : Cursor} {a : α}
    (hp : m.parse d = (.ok a, e)) : e.path = [] := by
  obtain ⟨s, hs, hcovers⟩ := exists_covers_of_admits (admits_of_parse hp).2
  exact hcovers.closed (h s hs)

/-- The end of the path is no further condition on a matcher that reads up to it. -/
theorem readsThen_of_closed {m : Matcher α} (h : ∀ s ∈ m.shapes, s.closed = true) :
    m.ReadsThen (fun e => e.path = []) d ↔ m.Reads d := by
  constructor
  · rintro ⟨a, e, hp, -⟩
    exact ⟨a, congrArg Prod.fst hp⟩
  · rintro ⟨a, ha⟩
    have hp : m.parse d = (.ok a, (m.parse d).2) := Prod.ext ha rfl
    exact ⟨a, _, hp, path_eq_nil_of_parse h hp⟩

end Signpost.Matcher

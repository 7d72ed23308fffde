import Mathlib.Data.Fin.Tuple.Basic
import Signpost.Proofs.Matcher.Consumption
import Signpost.Proofs.Matcher.Reading
import Signpost.Proofs.Query.Log

/-!
# Changes that matchers make to queries

Reading removes keys of the query and writing adds values to it, one after another.

* `Matcher.removed`: the keys that a reading removes. `query_parse`: it does nothing else to the query.
* `Matcher.written`: the pairs that a writing adds. `query_print`: it does nothing else to the query.
-/

namespace Signpost.Matcher

variable {α β : Type}

/-! ## Reading -/

/-- The keys that reading removes, in order. A sequence that fails has removed what its first matchers
read; an alternation removes what its first alternative that reads the cursor does. -/
def removed : {α : Type} → Matcher α → Cursor → List String
  | _, query key c, d => if ((d.query.first? key).bind c.apply).isSome then [key] else []
  | _, optionalQuery key c, d => if ((d.query.first? key).bind c.apply).isSome then [key] else []
  | _, @queryOr _ _ key c _, d => if ((d.query.first? key).bind c.apply).isSome then [key] else []
  | _, queryAll key c, d =>
    match d.query.find? key with
    | some values => if (convertAll key c values).isOk then [key] else []
    | none => []
  | _, skip first next, d =>
    match first.parse d with
    | (.ok _, e) => first.removed d ++ next.removed e
    | (.error _, _) => first.removed d
  | _, take first next, d =>
    match first.parse d with
    | (.ok _, e) => first.removed d ++ next.removed e
    | (.error _, _) => first.removed d
  | _, whole inner, d => inner.removed d
  | _, map inner _, d => inner.removed d
  | _, choice _ alternative, d =>
    match Fin.find? fun i => (alternative i).Reads d with
    | some i => (alternative i).removed d
    | none => []
  | _, _, _ => []

theorem query_parseOptional (key : String) (c : Conversion String α) (d : Cursor) :
    (parseOptional key c d).2.query =
      d.query.eraseAll (if ((d.query.first? key).bind c.apply).isSome then [key] else []) := by
  unfold parseOptional
  rcases (d.query.first? key).bind c.apply with _ | a <;> rfl

theorem query_parseSegment (c : Conversion String α) (d : Cursor) :
    (parseSegment c d).2.query = d.query := by
  unfold parseSegment
  split
  · rfl
  · split <;> rfl

theorem query_parseBody (mediaType : Http.MediaType) (missing : Except MatchError Bytes)
    (codec : BodyCodec α) (d : Cursor) : (parseBody mediaType missing codec d).2.query = d.query := by
  unfold parseBody
  split
  · rfl
  · rfl
  · split <;> rfl

/-- An alternation reads as its first alternative that reads the cursor, or leaves the cursor. -/
theorem parse_choice_eq_find? {count : Nat} (alternative : Fin count → Matcher α) (d : Cursor) :
    (choice count alternative).parse d =
      match Fin.find? fun i => (alternative i).Reads d with
      | some i => (alternative i).parse d
      | none => (.error .noAlternative, d) := by
  rcases hfind : Fin.find? fun i => decide ((alternative i).Reads d) with _ | i
  · have hnone := Fin.find?_eq_none_iff.1 hfind
    rcases hparse : (choice count alternative).parse d with ⟨e | a, rest⟩
    · rw [parse] at hparse
      rw [← hparse, parseFirst_of_failed (congrArg Prod.fst hparse)]
    · obtain ⟨i, hi⟩ := exists_of_parse_choice hparse
      exact absurd ⟨a, congrArg Prod.fst hi⟩ (of_decide_eq_false (hnone i))
  · obtain ⟨hi, hbefore⟩ := Fin.find?_eq_some_iff.1 hfind
    obtain ⟨a, ha⟩ := of_decide_eq_true hi
    have hparse : (alternative i).parse d = (.ok a, ((alternative i).parse d).2) := Prod.ext ha rfl
    rw [parse_choice_of_before (fun j hj => of_decide_eq_false (hbefore j hj)) hparse]
    exact hparse.symm

/-- A sequence that skips leaves what one that takes does. -/
theorem snd_parse_skip (first : Matcher α) (next : Matcher Unit) (d : Cursor) :
    ((skip first next).parse d).2 = ((take first next).parse d).2 := by
  rw [parse, parse]
  rcases first.parse d with ⟨_ | a, e⟩
  · rfl
  · dsimp only
    rcases next.parse e with ⟨_ | _, f⟩ <;> rfl

theorem query_parse_take {first : Matcher α} {next : Matcher β}
    (hfirst : ∀ d, (first.parse d).2.query = d.query.eraseAll (first.removed d))
    (hnext : ∀ d, (next.parse d).2.query = d.query.eraseAll (next.removed d)) (d : Cursor) :
    ((take first next).parse d).2.query = d.query.eraseAll ((take first next).removed d) := by
  have hd := hfirst d
  rw [parse, removed]
  generalize first.parse d = o at hd ⊢
  obtain ⟨_ | a, e⟩ := o
  · exact hd
  · have he := hnext e
    rw [Query.eraseAll_append, ← hd]
    dsimp only
    generalize next.parse e = o at he ⊢
    obtain ⟨_ | _, f⟩ := o <;> exact he

/-- Reading removes its keys from the query and does nothing else to it. -/
theorem query_parse (m : Matcher α) (d : Cursor) :
    (m.parse d).2.query = d.query.eraseAll (m.removed d) := by
  induction m generalizing d with
  | start => rfl
  | literal text =>
    rw [parse]
    split
    · rfl
    · split_ifs <;> rfl
  | method m =>
    rw [parse]
    split_ifs <;> rfl
  | segment c => exact query_parseSegment c d
  | query key c =>
    rw [parse, removed]
    rcases d.query.first? key with _ | value
    · rfl
    · rw [Option.bind_some]
      dsimp only
      rcases c.apply value with _ | a <;> rfl
  | optionalQuery key c => exact query_parseOptional key c d
  | queryOr key c default => exact query_parseOptional key c d
  | queryAll key c =>
    rw [parse, removed]
    rcases d.query.find? key with _ | values
    · rfl
    · dsimp only
      rcases convertAll key c values with e | as <;> rfl
  | form codec => exact query_parseBody .form (.ok []) codec d
  | json codec => exact query_parseBody .json (.error .missingJsonBody) codec d
  | rawBody =>
    rw [parse]
    split <;> rfl
  | skip first next ihf ihn =>
    rw [snd_parse_skip]
    exact query_parse_take ihf ihn d
  | take first next ihf ihn => exact query_parse_take ihf ihn d
  | whole inner ih =>
    have hinner := ih d
    rw [parse, removed]
    generalize inner.parse d = o at hinner ⊢
    obtain ⟨_ | a, e⟩ := o
    · exact hinner
    · dsimp only
      split_ifs <;> exact hinner
  | map inner c ih =>
    have hinner := ih d
    rw [parse, removed]
    generalize inner.parse d = o at hinner ⊢
    obtain ⟨_ | a, e⟩ := o
    · exact hinner
    · dsimp only
      split <;> exact hinner
  | choice count alternative ih =>
    rw [parse_choice_eq_find?, removed]
    rcases Fin.find? fun i => decide ((alternative i).Reads d) with _ | i
    · rfl
    · exact ih i d

/-! ## Writing -/

/-- The pair that writing one value of a key adds. -/
def writtenField (key : String) (c : Conversion String α) (a : α) : List (String × String) :=
  (c.unapply a).elim [] fun value => [(key, value)]

/-- The pairs that writing values of a key adds, up to the first that is refused. -/
def writtenFields (key : String) (c : Conversion String α) : List α → List (String × String)
  | [] => []
  | a :: as => (c.unapply a).elim [] fun value => (key, value) :: writtenFields key c as

/-- The pairs that writing adds to the query, in order. Conversions and alternations write into a
fragment, whose pairs are added. -/
def written : {α : Type} → Matcher α → α → List (String × String)
  | _, query key c, a => writtenField key c a
  | _, optionalQuery key c, a? => a?.elim [] (writtenField key c)
  | _, @queryOr _ _ key c default, a => if a = default then [] else writtenField key c a
  | _, queryAll key c, as => writtenFields key c as
  | _, skip first next, a =>
    if (first.print a .empty).1.isOk then first.written a ++ next.written () else first.written a
  | _, take first next, a =>
    if (first.print a.1 .empty).1.isOk then first.written a.1 ++ next.written a.2 else first.written a.1
  | _, whole inner, a => inner.written a
  | _, map inner c, b => ((map inner c).print b .empty).2.query.pairs
  | _, choice count alternative, a => ((choice count alternative).print a .empty).2.query.pairs
  | _, _, _ => []

theorem query_printField (key : String) (c : Conversion String α) (a : α) (d : Cursor) :
    (printField key c a d).2.query = d.query.pushAll (writtenField key c a) := by
  unfold printField writtenField
  rcases c.unapply a with _ | value <;> rfl

theorem query_printFields (key : String) (c : Conversion String α) (as : List α) (d : Cursor) :
    (printFields key c as d).2.query = d.query.pushAll (writtenFields key c as) := by
  induction as generalizing d with
  | nil => rfl
  | cons a as ih =>
    rw [printFields, printField, writtenFields]
    rcases c.unapply a with _ | value
    · rfl
    · exact ih _

theorem query_printBody (mediaType : Http.MediaType) (codec : BodyCodec α) (a : α) (d : Cursor) :
    (printBody mediaType codec a d).2.query = d.query := by
  unfold printBody
  rcases codec.encode? a with _ | bytes <;> rfl

theorem query_print_take {first : Matcher α} {next : Matcher β} {a : α} {b : β}
    (hfirst : ∀ d, (first.print a d).2.query = d.query.pushAll (first.written a))
    (hnext : ∀ d, (next.print b d).2.query = d.query.pushAll (next.written b)) (d : Cursor) :
    ((take first next).print (a, b) d).2.query = d.query.pushAll ((take first next).written (a, b)) := by
  have hd := hfirst d
  -- what decides whether the sequence goes on is the same on the empty cursor
  rw [print_eq_merge] at hd
  rw [print, print_eq_merge first, written]
  generalize first.print a .empty = o at hd ⊢
  obtain ⟨_ | ⟨⟨⟩⟩, f⟩ := o
  · exact hd
  · exact (hnext _).trans (by rw [hd, ← Query.pushAll_append]; rfl)

/-- Writing adds its pairs to the query and does nothing else to it. -/
theorem query_print (m : Matcher α) (a : α) (d : Cursor) :
    (m.print a d).2.query = d.query.pushAll (m.written a) := by
  induction m generalizing d with
  | start | literal | method | rawBody => rfl
  | segment c =>
    rw [print]
    rcases c.unapply a with _ | text
    · rfl
    · dsimp only
      split_ifs <;> rfl
  | query key c => exact query_printField key c a d
  | optionalQuery key c =>
    rcases a with _ | a
    · rfl
    · exact query_printField key c a d
  | queryOr key c default =>
    rw [print, written]
    split_ifs
    · rfl
    · exact query_printField key c a d
  | queryAll key c => exact query_printFields key c a d
  | form codec => exact query_printBody .form codec a d
  | json codec => exact query_printBody .json codec a d
  | skip first next ihf ihn => exact query_print_take (ihf a) (ihn ()) d
  | take first next ihf ihn => exact query_print_take (ihf a.1) (ihn a.2) d
  | whole inner ih => exact ih a d
  | map inner c | choice count alternative =>
    rw [print_eq_merge]
    rfl

end Signpost.Matcher

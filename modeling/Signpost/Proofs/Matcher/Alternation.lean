import Signpost.Proofs.Matcher.Case

/-!
# Alternations of alternations and of cases

* `parseFirst_append`, `printFirst_append`: more alternatives are asked only if those before them cannot.
* `parseFirst_nested`, `printFirst_nested`: an alternation that is itself an alternative may be replaced by
  its alternatives, whatever these do. `oneOf_nested` says so of matchers.
* `oneOf_flat`: the same at all depths, by induction on the matcher.
* `Case`: an alternative for one case. `print_oneOf_cases`: a value is written by the first case that claims
  it, which decides alone what becomes of the value.
-/

namespace Signpost

namespace PrintError

/-- The error of a claimed value when a part of it fails with an error. -/
def ofPart : PrintError → PrintError
  | unclaimed => unclaimedPart
  | e => e

theorem ofPart_ne_unclaimed (e : PrintError) : e.ofPart ≠ unclaimed := by
  cases e <;> nofun

end PrintError

namespace Matcher

variable {α : Type}

/-! ## More alternatives -/

theorem parseFirst_append (readers more : List (Cursor → Outcome MatchError α)) (d : Cursor) :
    parseFirst (readers ++ more) d =
      match parseFirst readers d with
      | (.ok a, e) => (.ok a, e)
      | (.error _, _) => parseFirst more d := by
  induction readers with
  | nil => rfl
  | cons reader readers ih =>
    rw [List.cons_append, parseFirst, parseFirst]
    rcases reader d with ⟨e | a, rest⟩
    · exact ih
    · rfl

theorem printFirst_append (writers more : List (Cursor → Outcome PrintError Unit)) (d : Cursor) :
    printFirst (writers ++ more) d =
      match printFirst writers d with
      | (.error .unclaimed, _) => printFirst more d
      | o => o := by
  induction writers with
  | nil => rfl
  | cons writer writers ih =>
    rw [List.cons_append, printFirst, printFirst]
    rcases writer .empty with ⟨e | ⟨⟨⟩⟩, f⟩
    · cases e with
      | unclaimed => exact ih
      | _ => rfl
    · rfl

/-! ## Alternations as alternatives -/

theorem parseFirst_cons_parseFirst (readers more : List (Cursor → Outcome MatchError α)) (d : Cursor) :
    parseFirst (parseFirst readers :: more) d = parseFirst (readers ++ more) d := by
  rcases h : parseFirst readers d with ⟨e | a, rest⟩
  · simp only [parseFirst, parseFirst_append, h]
  · simp only [parseFirst, parseFirst_append, h]

/-- An alternation that fails writes nothing. -/
theorem printFirst_failed {writers : List (Cursor → Outcome PrintError Unit)} {d : Cursor} {e : PrintError}
    (h : (printFirst writers d).1 = .error e) : printFirst writers d = (.error e, d) := by
  induction writers with
  | nil =>
    cases h
    rfl
  | cons writer writers ih =>
    rw [printFirst] at h ⊢
    rcases hw : writer .empty with ⟨e' | ⟨⟨⟩⟩, f⟩
    · rw [hw] at h
      cases e' with
      | unclaimed => exact ih h
      | _ =>
        cases h
        rfl
    · rw [hw] at h
      cases h

/-- The inner alternation adds what is written to the empty cursor, and the outer one adds that. -/
theorem printFirst_cons_printFirst (writers more : List (Cursor → Outcome PrintError Unit))
    (d : Cursor) : printFirst (printFirst writers :: more) d = printFirst (writers ++ more) d := by
  have hmerge := printFirst_merge writers d Query.wellFormed_empty (f := .empty)
  rw [Cursor.merge_empty] at hmerge
  rw [printFirst_append, printFirst, hmerge]
  rcases h : printFirst writers .empty with ⟨e | ⟨⟨⟩⟩, f⟩
  · have hf : f = .empty := by
      have hfailed := printFirst_failed (e := e) (by rw [h])
      rw [h] at hfailed
      exact (Prod.mk.inj hfailed).2
    rw [hf, Cursor.merge_empty]
    cases e <;> rfl
  · rfl

theorem parseFirst_nested (readers inner more : List (Cursor → Outcome MatchError α)) (d : Cursor) :
    parseFirst (readers ++ parseFirst inner :: more) d = parseFirst (readers ++ inner ++ more) d := by
  rw [List.append_assoc, parseFirst_append, parseFirst_append, parseFirst_cons_parseFirst]

theorem printFirst_nested (writers inner more : List (Cursor → Outcome PrintError Unit)) (d : Cursor) :
    printFirst (writers ++ printFirst inner :: more) d = printFirst (writers ++ inner ++ more) d := by
  rw [List.append_assoc, printFirst_append, printFirst_append, printFirst_cons_printFirst]

/-- An alternation among the alternatives may be replaced by its own alternatives: every cursor is read with
the same result and the same rest, and every value is written onto every cursor with the same result and
the same outcome. -/
theorem oneOf_nested (before inner after : List (Matcher α)) :
    (∀ d, (oneOf (before ++ oneOf inner :: after)).parse d = (oneOf (before ++ inner ++ after)).parse d) ∧
      ∀ a d, (oneOf (before ++ oneOf inner :: after)).print a d =
        (oneOf (before ++ inner ++ after)).print a d := by
  constructor
  · intro d
    have hinner : (oneOf inner).parse = parseFirst (inner.map parse) := funext (parse_oneOf inner)
    rw [parse_oneOf, parse_oneOf, List.map_append, List.map_append, List.map_append, List.map_cons, hinner]
    exact parseFirst_nested _ _ _ d
  · intro a d
    have hinner : (oneOf inner).print a = printFirst (inner.map fun m => m.print a) :=
      funext (print_oneOf inner a)
    rw [print_oneOf, print_oneOf, List.map_append, List.map_append, List.map_append, List.map_cons, hinner]
    exact printFirst_nested _ _ _ d

/-! ## Alternations at all depths -/

/-- The alternatives of directly nested alternations at all depths. A matcher that is no alternation is the
only one. -/
def flat : {α : Type} → Matcher α → List (Matcher α)
  | _, choice _ alternative => (List.ofFn fun i => (alternative i).flat).flatten
  | _, m => [m]

theorem flat_choice {count : Nat} (alternative : Fin count → Matcher α) :
    (choice count alternative).flat = (List.ofFn alternative).flatMap flat := by
  rw [flat, List.flatMap_def, List.map_ofFn]
  rfl

theorem parseFirst_flatMap {ms : List (Matcher α)} {d : Cursor}
    (h : ∀ m ∈ ms, parseFirst (m.flat.map parse) d = parseFirst [m.parse] d) :
    parseFirst ((ms.flatMap flat).map parse) d = parseFirst (ms.map parse) d := by
  induction ms with
  | nil => rfl
  | cons m ms ih =>
    have hm := h m List.mem_cons_self
    have hms := ih fun n hn => h n (List.mem_cons_of_mem m hn)
    have hcons : (m :: ms).map parse = [m.parse] ++ ms.map parse := rfl
    rw [List.flatMap_cons, List.map_append, parseFirst_append, hm, hms, hcons, parseFirst_append]

theorem printFirst_flatMap {ms : List (Matcher α)} {a : α} {d : Cursor}
    (h : ∀ m ∈ ms, printFirst (m.flat.map fun n => n.print a) d = printFirst [m.print a] d) :
    printFirst ((ms.flatMap flat).map fun n => n.print a) d =
      printFirst (ms.map fun m => m.print a) d := by
  induction ms with
  | nil => rfl
  | cons m ms ih =>
    have hm := h m List.mem_cons_self
    have hms := ih fun n hn => h n (List.mem_cons_of_mem m hn)
    have hcons : ((m :: ms).map fun n => n.print a) = [m.print a] ++ ms.map fun n => n.print a := rfl
    rw [List.flatMap_cons, List.map_append, printFirst_append, hm, hms, hcons, printFirst_append]

theorem parseFirst_flat (m : Matcher α) (d : Cursor) :
    parseFirst (m.flat.map parse) d = parseFirst [m.parse] d := by
  induction m with
  | choice count alternative ih =>
    have hparse : (choice count alternative).parse = parseFirst ((List.ofFn alternative).map parse) := by
      funext d
      rw [parse, List.map_ofFn]
      rfl
    rw [flat_choice, hparse, parseFirst_cons_parseFirst, List.append_nil]
    refine parseFirst_flatMap ?_
    intro m hm
    obtain ⟨i, rfl⟩ := List.mem_ofFn.1 hm
    exact ih i
  | _ => rfl

theorem printFirst_flat (m : Matcher α) (a : α) (d : Cursor) :
    printFirst (m.flat.map fun n => n.print a) d = printFirst [m.print a] d := by
  induction m with
  | choice count alternative ih =>
    have hprint : (choice count alternative).print a =
        printFirst ((List.ofFn alternative).map fun m => m.print a) := by
      funext d
      rw [print, List.map_ofFn]
      rfl
    rw [flat_choice, hprint, printFirst_cons_printFirst, List.append_nil]
    refine printFirst_flatMap ?_
    intro m hm
    obtain ⟨i, rfl⟩ := List.mem_ofFn.1 hm
    exact ih i a
  | _ => rfl

/-- Alternations among the alternatives may be replaced by their alternatives at all depths at once. -/
theorem oneOf_flat (ms : List (Matcher α)) :
    (∀ d, (oneOf (ms.flatMap flat)).parse d = (oneOf ms).parse d) ∧
      ∀ a d, (oneOf (ms.flatMap flat)).print a d = (oneOf ms).print a d := by
  constructor
  · intro d
    rw [parse_oneOf, parse_oneOf]
    exact parseFirst_flatMap fun m _ => parseFirst_flat m d
  · intro a d
    rw [print_oneOf, print_oneOf]
    exact printFirst_flatMap fun m _ => printFirst_flat m a d

/-! ## Alternations of cases -/

/-- An alternative for one case: what is matched, and the conversion that makes the case of it. -/
structure Case (α : Type) where
  {Part : Type}
  inner : Matcher Part
  conversion : Conversion Part α

namespace Case

variable {k : Case α} {a : α}

/-- The alternative as a matcher. -/
def matcher (k : Case α) : Matcher α := map k.inner k.conversion

/-- A value of another case is unclaimed, and nothing is written. -/
theorem print_of_none (h : k.conversion.unapply a = none) (d : Cursor) :
    k.matcher.print a d = (.error .unclaimed, d) := by
  rw [matcher, print, h]

/-- A value of the case is written whole or not at all, and never unclaimed. A part of it that no matcher
claims is an error of its own. -/
theorem print_of_some {part : k.Part} (h : k.conversion.unapply a = some part) (d : Cursor) :
    ((∃ f, k.matcher.print a .empty = (.ok (), f) ∧ k.matcher.print a d = (.ok (), d.merge f)) ∨
        ∃ e, e ≠ .unclaimed ∧ k.matcher.print a .empty = (.error e, .empty) ∧
          k.matcher.print a d = (.error e, d)) ∧
      ((k.inner.print part .empty).1 = .error .unclaimed →
        k.matcher.print a d = (.error .unclaimedPart, d)) := by
  have hkeeps := print_keeps k.inner part .empty
  rcases hinner : k.inner.print part .empty with ⟨e | ⟨⟨⟩⟩, f⟩
  · have hprint (d : Cursor) : k.matcher.print a d = (.error e.ofPart, d) := by
      simp only [matcher, print, h, hinner]
      cases e <;> rfl
    refine ⟨.inr ⟨e.ofPart, e.ofPart_ne_unclaimed, hprint .empty, hprint d⟩, ?_⟩
    intro hunclaimed
    cases hunclaimed
    exact hprint d
  · have hprint (d : Cursor) : k.matcher.print a d = (.ok (), d.merge f) := by
      simp only [matcher, print, h, hinner]
    have hf : Cursor.empty.merge f = f := by
      rw [hinner] at hkeeps
      exact Cursor.empty_merge (hkeeps.1 Query.wellFormed_empty) hkeeps.2
    refine ⟨.inl ⟨f, ?_, hprint d⟩, fun hfailed => ?_⟩
    · rw [hprint .empty, hf]
    · cases hfailed

/-- A case that claims the value is the last alternative that is asked. -/
theorem printFirst_cons {part : k.Part} (h : k.conversion.unapply a = some part)
    (more : List (Cursor → Outcome PrintError Unit)) (d : Cursor) :
    printFirst (k.matcher.print a :: more) d = k.matcher.print a d := by
  rw [printFirst]
  rcases (print_of_some h d).1 with ⟨f, hempty, hd⟩ | ⟨e, hne, hempty, hd⟩
  · rw [hempty, hd]
  · rw [hempty, hd]
    cases e with
    | unclaimed => exact absurd rfl hne
    | _ => rfl

/-- Cases of other values are passed over. -/
theorem printFirst_append_of_none {cases : List (Case α)} (h : ∀ k ∈ cases, k.conversion.unapply a = none)
    (more : List (Cursor → Outcome PrintError Unit)) (d : Cursor) :
    printFirst (cases.map (fun k => k.matcher.print a) ++ more) d = printFirst more d := by
  induction cases with
  | nil => rfl
  | cons k cases ih =>
    rw [List.map_cons, List.cons_append, printFirst, print_of_none (h k List.mem_cons_self)]
    exact ih fun j hj => h j (List.mem_cons_of_mem k hj)

end Case

/-- A value that no case claims is unclaimed, and nothing is written. Otherwise the first case that claims it
decides what becomes of the value: it is written as a fragment or fails with an error that is never the one
of an unclaimed value, whatever the later alternatives are. -/
theorem print_oneOf_cases (cases : List (Case α)) (a : α) (d : Cursor) :
    ((∀ k ∈ cases, k.conversion.unapply a = none) →
        (oneOf (cases.map Case.matcher)).print a d = (.error .unclaimed, d)) ∧
      ∀ before k after part, cases = before ++ k :: after →
        (∀ j ∈ before, j.conversion.unapply a = none) → k.conversion.unapply a = some part →
          (oneOf (cases.map Case.matcher)).print a d = k.matcher.print a d ∧
          ((∃ f, k.matcher.print a .empty = (.ok (), f) ∧ k.matcher.print a d = (.ok (), d.merge f)) ∨
            ∃ e, e ≠ .unclaimed ∧ k.matcher.print a .empty = (.error e, .empty) ∧
              k.matcher.print a d = (.error e, d)) ∧
          ((k.inner.print part .empty).1 = .error .unclaimed →
            k.matcher.print a d = (.error .unclaimedPart, d)) ∧
          ∀ later : List (Matcher α),
            (oneOf (before.map Case.matcher ++ k.matcher :: later)).print a d =
              (oneOf (cases.map Case.matcher)).print a d := by
  have hprint (before : List (Case α)) (later : List (Matcher α)) :
      (oneOf (before.map Case.matcher ++ later)).print a d =
        printFirst (before.map (fun k => k.matcher.print a) ++ later.map fun m => m.print a) d := by
    rw [print_oneOf, List.map_append, List.map_map]
    rfl
  constructor
  · intro hnone
    have hall := hprint cases []
    rw [List.append_nil, Case.printFirst_append_of_none hnone] at hall
    exact hall
  · intro before k after part hcases hbefore hk
    have hfirst (later : List (Matcher α)) :
        (oneOf (before.map Case.matcher ++ k.matcher :: later)).print a d = k.matcher.print a d := by
      rw [hprint, Case.printFirst_append_of_none hbefore]
      exact Case.printFirst_cons hk _ d
    have hall : (oneOf (cases.map Case.matcher)).print a d = k.matcher.print a d := by
      rw [hcases, List.map_append]
      exact hfirst (after.map Case.matcher)
    obtain ⟨houtcome, hpart⟩ := Case.print_of_some hk d
    refine ⟨hall, houtcome, hpart, ?_⟩
    intro later
    rw [hfirst later, hall]

/-- A shelf with a name, or all shelves. -/
def allShelves : Case (Option String) where
  inner := literal "shelves"
  conversion := .case (fun _ => none) fun shelf => if shelf.isNone then some () else none

/-- One of the two shelves that have a name. -/
def namedShelf : Case (Option String) where
  inner := take (literal "shelves")
    (oneOf [map (literal "tea") (.case (fun _ => "tea") fun name => if name = "tea" then some () else none),
      map (literal "mugs") (.case (fun _ => "mugs") fun name => if name = "mugs" then some () else none)])
  conversion := .case (fun part => some part.2) fun shelf => shelf.map ((), ·)

/-- A search for a shelf with any name. -/
def soughtShelf : Case (Option String) where
  inner := query "q" (.text String)
  conversion := .case some id

/-- The shelf of jugs is claimed as one with a name. No alternative below claims the name, and the search, which
would write it, is not asked. -/
theorem print_shelfOfJugs :
    allShelves.conversion.unapply (some "jugs") = none ∧
      namedShelf.conversion.unapply (some "jugs") = some ((), "jugs") ∧
      (oneOf ([allShelves, namedShelf, soughtShelf].map Case.matcher)).print (some "jugs")
        { path := ["shop"] } = (.error .unclaimedPart, { path := ["shop"] }) ∧
      (soughtShelf.matcher.print (some "jugs") { path := ["shop"] }).1 = .ok () := by
  have hnone : allShelves.conversion.unapply (some "jugs") = none := rfl
  have hsome : namedShelf.conversion.unapply (some "jugs") = some ((), "jugs") := rfl
  obtain ⟨hfirst, -, hpart, -⟩ := (print_oneOf_cases [allShelves, namedShelf, soughtShelf] (some "jugs")
    { path := ["shop"] }).2 [allShelves] namedShelf [soughtShelf] ((), "jugs") rfl (by simpa using hnone) hsome
  refine ⟨hnone, hsome, ?_, rfl⟩
  rw [hfirst]
  exact hpart (by decide)

end Matcher

end Signpost

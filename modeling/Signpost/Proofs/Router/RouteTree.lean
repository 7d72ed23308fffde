import Signpost.Proofs.Router.Audit

/-!
# Route trees

A route tree is an alternation of mapped sequences that match whole paths, the last step of which may be
another route tree.

* `IsRouteTree`: the shape, one predicate for each layer of it.
* `audit_of_isRouteTree`: a value of a route tree that prints passes its audit, if no alternative before
  the one that writes it reads what is left of the request at its level.
-/

namespace Signpost

namespace Matcher

variable {α : Type}

/-! ## The shape -/

/-- A method, a literal with some text, a segment, a query field or a body. -/
def IsStep : {α : Type} → Matcher α → Prop
  | _, literal text => text ≠ ""
  | _, start => False
  | _, skip .. => False
  | _, take .. => False
  | _, whole _ => False
  | _, map .. => False
  | _, choice .. => False
  | _, _ => True

/-- Steps in any order. -/
def IsSteps : {α : Type} → Matcher α → Prop
  | _, start => True
  | _, skip first next => first.IsSteps ∧ next.IsStep
  | _, take first next => first.IsSteps ∧ next.IsStep
  | _, _ => False

mutual

/-- An alternation of route alternatives. -/
def IsRouteTree : {α : Type} → Matcher α → Prop
  | _, choice _ alternative => ∀ i, (alternative i).IsRouteAlternative
  | _, _ => False

/-- A sequence that is mapped by a conversion. -/
def IsRouteAlternative : {α : Type} → Matcher α → Prop
  | _, map inner _ => inner.IsWholeRoute
  | _, _ => False

/-- A sequence after which no path segment may be left. -/
def IsWholeRoute : {α : Type} → Matcher α → Prop
  | _, whole inner => inner.IsRouteSequence
  | _, _ => False

/-- Steps in any order, and perhaps a route tree after them. -/
def IsRouteSequence : {α : Type} → Matcher α → Prop
  | _, start => True
  | _, skip first next => first.IsSteps ∧ next.IsStep
  | _, take first next => first.IsSteps ∧ (next.IsStep ∨ next.IsRouteTree)
  | _, _ => False

end

theorem IsStep.isComposable {m : Matcher α} (h : m.IsStep) (last : Bool) : m.IsComposable last := by
  cases m with
  | literal text => exact h
  | start | skip | take | whole | map | choice => exact h.elim
  | _ => trivial

theorem IsSteps.isComposable {m : Matcher α} (h : m.IsSteps) (last : Bool) : m.IsComposable last := by
  induction m generalizing last with
  | start => trivial
  | skip first next ihf ihn => exact ⟨ihf h.1 false, h.2.isComposable last⟩
  | take first next ihf ihn => exact ⟨ihf h.1 false, h.2.isComposable last⟩
  | _ => exact h.elim

/-- The layers of a route tree may stand where nothing follows. -/
theorem isComposable_of_layer (m : Matcher α) :
    (m.IsRouteTree → m.IsComposable true) ∧ (m.IsRouteAlternative → m.IsComposable true) ∧
      (m.IsWholeRoute → m.IsComposable true) ∧ (m.IsRouteSequence → m.IsComposable true) := by
  induction m with
  | start => exact ⟨False.elim, False.elim, False.elim, fun _ => trivial⟩
  | skip first next ihf ihn =>
    refine ⟨False.elim, False.elim, False.elim, fun h => ?_⟩
    exact ⟨h.1.isComposable false, h.2.isComposable true⟩
  | take first next ihf ihn =>
    refine ⟨False.elim, False.elim, False.elim, fun h => ⟨h.1.isComposable false, ?_⟩⟩
    exact h.2.elim (fun hstep => hstep.isComposable true) ihn.1
  | whole inner ih => exact ⟨False.elim, False.elim, fun h => ⟨rfl, ih.2.2.2 h⟩, False.elim⟩
  | map inner c ih => exact ⟨False.elim, ih.2.2.1, False.elim, False.elim⟩
  | choice count alternative ih =>
    exact ⟨fun h i => (ih i).2.1 (h i), False.elim, False.elim, False.elim⟩
  | _ => exact ⟨False.elim, False.elim, False.elim, False.elim⟩

end Matcher

/-! ## The law of round trips -/

namespace Router

variable {α : Type}

/-- A value of a route tree with sound chains and faithful conversions passes its audit, if it prints with
a target that fits into a uri and, when the printed request is read back, no alternative before the one
that prints it reads the cursor that reaches its level. -/
theorem audit_of_isRouteTree [DecidableEq α] (r : Router α) (htree : r.root.IsRouteTree)
    (hsound : ∀ chain ∈ r.root.chains, IsSound chain) (hfaithful : r.root.Faithful) (a : α)
    (p : Cursor) (hp : r.tryPrint a = .ok p)
    (hsize : p.pathString.utf8ByteSize ≤ Http.Uri.maxBytes)
    (hfirst : ∀ d, reread p = .ok d → r.root.Unshadowed a d) : r.audit a = .ok () := by
  have hroot := (Matcher.isComposable_of_layer r.root).1 htree
  obtain ⟨chain, hspells⟩ := Matcher.spells_of_print hfaithful (print_root_of_tryPrint hp)
  have hfits := hspells.fits
  have hagain := reread_eq hfits.wellFormed (hspells.ne_empty_of_mem_path hroot) hfits.malformed hsize
  exact audit_of_spells hspells hroot (hsound chain hspells.mem_chains) hsize (hfirst _ hagain).prevails

/-- An index, and below it posts with an optional page. -/
def sampleTree : Matcher (Option (String × Option String)) :=
  .oneOf
    [ Matcher.start |>.skip (.method .get)
        |>.whole |>.map (.case (fun () => none) fun | none => some () | some _ => none),
      Matcher.start |>.skip (.literal "posts") |>.take (.segment (.text String))
        |>.take (.oneOf
          [ Matcher.start |>.skip (.method .get) |>.take (.optionalQuery "page" (.text String))
              |>.whole |>.map (.case (fun ((), page) => page) fun page => some ((), page)) ])
        |>.whole |>.map (.case (fun (((), slug), page) => some (slug, page)) fun
          | some (slug, page) => some (((), slug), page)
          | none => none) ]

theorem isRouteTree_sampleTree : sampleTree.IsRouteTree := by
  intro i
  match i with
  | 0 => exact ⟨trivial, trivial⟩
  | 1 =>
    refine ⟨⟨⟨trivial, show "posts" ≠ "" by decide⟩, trivial⟩, .inr ?_⟩
    intro k
    match k with
    | 0 => exact ⟨⟨trivial, trivial⟩, .inl trivial⟩

theorem faithful_sampleTree : sampleTree.Faithful := by
  intro i
  match i with
  | 0 =>
    refine ⟨⟨trivial, trivial⟩, ?_⟩
    rintro (_ | _) a ha
    · rfl
    · cases ha
  | 1 =>
    refine ⟨⟨⟨⟨trivial, trivial⟩, Conversion.faithful_text⟩, ?_⟩, ?_⟩
    · intro k
      match k with
      | 0 =>
        refine ⟨⟨⟨trivial, trivial⟩, Conversion.faithful_text⟩, ?_⟩
        intro b a ha
        cases ha
        rfl
    · rintro (_ | _) a ha
      · cases ha
      · cases ha
        rfl

/-- The fragment of a post of `sampleTree`. -/
def samplePost : Cursor :=
  { method? := some .get, path := ["posts", "tea"], query := ⟨[("page", ["2"])]⟩ }

theorem unshadowed_samplePost :
    sampleTree.Unshadowed (some ("tea", some "2")) samplePost := by
  intro i hi
  match i with
  | 0 => exact absurd rfl hi.2
  | 1 =>
    refine ⟨?_, ?_⟩
    · intro j hj
      match j with
      | 0 =>
        rintro ⟨a, ha⟩
        cases ha
      | 1 => exact absurd hj (Nat.lt_irrefl 1)
    · intro a ha
      cases ha
      refine ⟨⟨⟨trivial, trivial⟩, trivial⟩, ?_⟩
      intro k hk
      match k with
      | 0 =>
        refine ⟨nofun, ?_⟩
        intro b hb
        cases hb
        exact ⟨⟨trivial, trivial⟩, trivial⟩

/-- The law applies to a tree of two levels and a value with a query field. -/
theorem audit_sampleTree :
    (Router.mk sampleTree { secure := true, authority := { host := "tea.example" }, path := "/" }).audit
      (some ("tea", some "2")) = .ok () := by
  refine audit_of_isRouteTree _ isRouteTree_sampleTree ?_ faithful_sampleTree _ samplePost rfl
    (by decide) ?_
  · show ∀ chain ∈ sampleTree.chains, IsSound chain
    decide
  · intro d hd
    rw [reread_eq (Query.wellFormed_empty.push "page" "2") (by decide) rfl (by decide)] at hd
    cases hd
    exact unshadowed_samplePost

end Router

end Signpost

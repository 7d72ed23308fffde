import Signpost.Proofs.Matcher.Case

/-!
# Addresses

The path that a matcher writes for a value, without what it writes besides.

* `Matcher.address`: the segments of the path. `hasCases`: alternatives are told apart by their cases.
* `path_print`: a value that is written is written with its address.
-/

namespace Signpost.Matcher

variable {α β : Type}

/-- The segments that are written for the value. An alternation writes with the first alternative whose
case it is. -/
def address : {α : Type} → Matcher α → α → List String
  | _, literal text, _ => [text]
  | _, segment c, a => (c.unapply a).toList
  | _, skip first next, a => first.address a ++ next.address ()
  | _, take first next, a => first.address a.1 ++ next.address a.2
  | _, whole inner, a => inner.address a
  | _, map inner c, b => (c.unapply b).elim [] inner.address
  | _, choice _ alternative, a =>
    ((List.ofFn fun i => ((alternative i).claims a, (alternative i).address a)).find? (·.1)).elim [] (·.2)
  | _, _, _ => []

/-- The matcher maps what another reads. -/
def isCase : {α : Type} → Matcher α → Bool
  | _, map _ _ => true
  | _, _ => false

/-- Every alternative is a case. -/
def hasCases : {α : Type} → Matcher α → Bool
  | _, skip first next => first.hasCases && next.hasCases
  | _, take first next => first.hasCases && next.hasCases
  | _, whole inner => inner.hasCases
  | _, map inner _ => inner.hasCases
  | _, choice _ alternative => (List.ofFn fun i => (alternative i).isCase && (alternative i).hasCases).all id
  | _, _ => true

theorem claims_eq_false_of_print {m : Matcher α} (hm : m.isCase = true) {a : α} {d : Cursor}
    (h : (m.print a d).1 = .error .unclaimed) : m.claims a = false := by
  cases m with
  | map inner c => rw [claims, unapply_of_print h, Option.isSome_none]
  | _ => cases hm

theorem path_printField (key : String) (c : Conversion String α) (a : α) (d : Cursor) :
    (printField key c a d).2.path = d.path := by
  unfold printField
  cases c.unapply a <;> rfl

theorem path_printFields (key : String) (c : Conversion String α) (as : List α) (d : Cursor) :
    (printFields key c as d).2.path = d.path := by
  induction as generalizing d with
  | nil => rfl
  | cons a as ih =>
    rw [printFields, printField]
    cases c.unapply a with
    | none => rfl
    | some value => exact ih _

theorem path_printBody (mediaType : Http.MediaType) (codec : BodyCodec α) (a : α) (d : Cursor) :
    (printBody mediaType codec a d).2.path = d.path := by
  unfold printBody
  cases codec.encode? a <;> rfl

/-- A sequence is written with the addresses of both; one that skips writes like one that takes. -/
theorem path_print_take {first : Matcher α} {next : Matcher β} {a : α} {b : β}
    (hfirst : ∀ d : Cursor, (first.print a d).1 = .ok () →
      (first.print a d).2.path = d.path ++ first.address a)
    (hnext : ∀ d : Cursor, (next.print b d).1 = .ok () →
      (next.print b d).2.path = d.path ++ next.address b) {d : Cursor}
    (h : ((take first next).print (a, b) d).1 = .ok ()) :
    ((take first next).print (a, b) d).2.path = d.path ++ (first.address a ++ next.address b) := by
  have hpath := hfirst d
  rw [print] at h ⊢
  generalize first.print a d = o at h hpath ⊢
  obtain ⟨_ | ⟨⟨⟩⟩, e⟩ := o
  · cases h
  · rw [← List.append_assoc, ← hpath rfl]
    exact hnext e h

/-- The address of an alternation is that of the alternative that writes. -/
theorem address_choice {count : Nat} {alternative : Fin count → Matcher α}
    (hcases : ∀ i, (alternative i).isCase = true) {a : α} {i : Fin count} (hi : Claims alternative a i) :
    (choice count alternative).address a = (alternative i).address a := by
  have hfind : (List.ofFn fun i => ((alternative i).claims a, (alternative i).address a)).find? (·.1) =
      some ((alternative i).claims a, (alternative i).address a) := by
    refine List.find?_eq_some_iff_getElem.2 ⟨claims_of_print hi.2, i, by simp, by simp, fun j hj => ?_⟩
    have hno := claims_eq_false_of_print (hcases ⟨j, by omega⟩) (hi.1 ⟨j, by omega⟩ hj)
    simpa using hno
  rw [address, hfind]
  rfl

/-- A value that is written is written with its address. -/
theorem path_print {m : Matcher α} (hm : m.hasCases = true) {a : α} {d : Cursor}
    (h : (m.print a d).1 = .ok ()) : (m.print a d).2.path = d.path ++ m.address a := by
  have hkept {f g : Cursor} (hg : g.path = f.path) : g.path = f.path ++ [] := by rw [hg, List.append_nil]
  induction m generalizing d with
  | start | method | rawBody => exact hkept rfl
  | literal text => rfl
  | segment c =>
    rw [print] at h ⊢
    rw [address]
    cases hc : c.unapply a with
    | none =>
      rw [hc] at h
      cases h
    | some text =>
      rw [hc] at h
      dsimp only at h ⊢
      split_ifs at h ⊢
      rfl
  | query key c => exact hkept (path_printField key c a d)
  | optionalQuery key c =>
    cases a with
    | none => exact hkept rfl
    | some a => exact hkept (path_printField key c a d)
  | queryOr key c default =>
    refine hkept ?_
    rw [print]
    split_ifs
    · rfl
    · exact path_printField key c a d
  | queryAll key c => exact hkept (path_printFields key c a d)
  | form codec => exact hkept (path_printBody .form codec a d)
  | json codec => exact hkept (path_printBody .json codec a d)
  | skip first next ihf ihn =>
    obtain ⟨hmf, hmn⟩ := Bool.and_eq_true_iff.1 hm
    exact path_print_take (fun _ => ihf hmf) (fun _ => ihn hmn) h
  | take first next ihf ihn =>
    obtain ⟨hmf, hmn⟩ := Bool.and_eq_true_iff.1 hm
    exact path_print_take (fun _ => ihf hmf) (fun _ => ihn hmn) h
  | whole inner ih => exact ih hm h
  | map inner c ih =>
    rw [print] at h ⊢
    rw [address]
    cases hc : c.unapply a with
    | none =>
      rw [hc] at h
      cases h
    | some b =>
      rw [hc] at h
      dsimp only at h ⊢
      have hinner := ih hm (a := b) (d := .empty)
      generalize inner.print b .empty = o at h hinner ⊢
      obtain ⟨e | ⟨⟨⟩⟩, f⟩ := o
      · cases e <;> cases h
      · exact congrArg (d.path ++ ·) (hinner rfl)
  | choice count alternative ih =>
    have hall : ∀ i, (alternative i).isCase = true ∧ (alternative i).hasCases = true := by
      simpa [hasCases] using hm
    rcases print_choice alternative a d with ⟨-, hprint⟩ | ⟨i, hi, ⟨hok, hprint⟩ | ⟨e, -, hprint⟩⟩
    · rw [hprint] at h
      cases h
    · rw [hprint, address_choice (fun j => (hall j).1) hi]
      exact congrArg (d.path ++ ·) (ih i (hall i).2 hok)
    · rw [hprint] at h
      cases h

end Signpost.Matcher

import Signpost.Matcher.Basic
import Signpost.Proofs.Cursor.Merge

/-!
# Writing onto cursors

What a matcher writes does not depend on what is written already: it writes onto any cursor what it
writes onto the empty one, added as a fragment.

* `print_writes`: what each single write keeps is kept by all writing; with `usesBody`, for values that
  are written without a body. `print_keeps`: queries stay well-formed, and the mark of a cursor stays.
* `print_choice`: an alternation writes with the first alternative that claims the value, and only
  all that it writes.
* `print_merge`: writing onto a merged cursor is writing onto the fragment. It is an induction on the
  matcher that rests on the associativity of merges of well-formed queries.
* `print_failed`: what is no sequence writes all of a value or nothing.
-/

namespace Signpost

/-! ## What writing keeps -/

/-- The relation holds between a cursor and what any writes but those of a body make of it. -/
structure Cursor.IsWriting (R : Cursor → Cursor → Prop) : Prop where
  refl : ∀ d, R d d
  trans : ∀ {d e f}, R d e → R e f → R d f
  pushSegment : ∀ d segment, R d (d.pushSegment segment)
  setMethod : ∀ d method, R d (d.setMethod method)
  pushQuery : ∀ d key value, R d (d.pushQuery key value)
  merge : ∀ d f, R .empty f → R d (d.merge f)

/-- The query stays well-formed, and the mark stays as it was. -/
def Cursor.Keeps (d e : Cursor) : Prop :=
  (d.query.WellFormed → e.query.WellFormed) ∧ e.malformed = d.malformed

theorem Cursor.isWriting_keeps : IsWriting Keeps where
  refl _ := ⟨id, rfl⟩
  trans h h' := ⟨fun hd => h'.1 (h.1 hd), h'.2.trans h.2⟩
  pushSegment _ _ := ⟨id, rfl⟩
  setMethod _ _ := ⟨id, rfl⟩
  pushQuery _ key value := ⟨fun hd => hd.push key value, rfl⟩
  merge _ f _ := ⟨fun hd => hd.merge f.query, rfl⟩

namespace Matcher

variable {α : Type}

/-! ## Fields and bodies -/

section Writing

variable {R : Cursor → Cursor → Prop}

theorem printField_writes (hR : Cursor.IsWriting R) (key : String) (c : Conversion String α) (a : α)
    (d : Cursor) : R d (printField key c a d).2 := by
  unfold printField
  cases c.unapply a with
  | none => exact hR.refl d
  | some value => exact hR.pushQuery d key value

theorem printFields_writes (hR : Cursor.IsWriting R) (key : String) (c : Conversion String α)
    (as : List α) (d : Cursor) : R d (printFields key c as d).2 := by
  induction as generalizing d with
  | nil => exact hR.refl d
  | cons a as ih =>
    have hfirst := printField_writes hR key c a d
    rw [printFields]
    generalize printField key c a d = o at hfirst ⊢
    obtain ⟨_ | ⟨⟨⟩⟩, e⟩ := o
    · exact hfirst
    · exact hR.trans hfirst (ih e)

end Writing

theorem printField_merge (key : String) (c : Conversion String α) (a : α) (d : Cursor) {f : Cursor}
    (hf : f.query.WellFormed) :
    printField key c a (d.merge f) =
      ((printField key c a f).1, d.merge (printField key c a f).2) := by
  unfold printField
  cases c.unapply a with
  | none => rfl
  | some value => simp only [Cursor.merge_pushQuery d hf]

theorem printFields_merge (key : String) (c : Conversion String α) (as : List α) (d : Cursor)
    {f : Cursor} (hf : f.query.WellFormed) :
    printFields key c as (d.merge f) =
      ((printFields key c as f).1, d.merge (printFields key c as f).2) := by
  induction as generalizing f with
  | nil => rfl
  | cons a as ih =>
    have hw := (printField_writes Cursor.isWriting_keeps key c a f).1 hf
    rw [printFields, printFields, printField_merge key c a d hf]
    generalize printField key c a f = o at hw ⊢
    obtain ⟨_ | ⟨⟨⟩⟩, g⟩ := o
    · rfl
    · exact ih hw

theorem printBody_merge (mediaType : Http.MediaType) (codec : BodyCodec α) (a : α) (d f : Cursor) :
    printBody mediaType codec a (d.merge f) =
      ((printBody mediaType codec a f).1, d.merge (printBody mediaType codec a f).2) := by
  unfold printBody
  cases codec.encode? a with
  | none => rfl
  | some bytes => simp only [Cursor.merge_setBody, Cursor.merge_setContentType]

/-! ## Alternations -/

/-- The alternative `i` is the first that claims the value. -/
def Claims {count : Nat} (alternative : Fin count → Matcher α) (a : α) (i : Fin count) : Prop :=
  (∀ j < i, ((alternative j).print a .empty).1 = .error .unclaimed) ∧
    ((alternative i).print a .empty).1 ≠ .error .unclaimed

/-- Either no alternative claims the value, or the alternation writes as the first that does: it adds
the fragment, or leaves the cursor as it was when that fails. -/
theorem print_choice {count : Nat} (alternative : Fin count → Matcher α) (a : α) (d : Cursor) :
    ((∀ i, ((alternative i).print a .empty).1 = .error .unclaimed) ∧
        (choice count alternative).print a d = (.error .unclaimed, d)) ∨
      ∃ i, Claims alternative a i ∧
        ((((alternative i).print a .empty).1 = .ok () ∧
            (choice count alternative).print a d =
              (.ok (), d.merge ((alternative i).print a .empty).2)) ∨
          ∃ e, ((alternative i).print a .empty).1 = .error e ∧
            (choice count alternative).print a d = (.error e, d)) := by
  simp only [print]
  induction count with
  | zero => exact .inl ⟨fun i => i.elim0, rfl⟩
  | succ count ih =>
    rw [List.ofFn_succ, printFirst]
    have claims_zero (h : ((alternative 0).print a .empty).1 ≠ .error .unclaimed) :
        Claims alternative a 0 := ⟨fun j hj => absurd hj (Fin.not_lt_zero j), h⟩
    rcases h : (alternative 0).print a .empty with ⟨e | ⟨⟨⟩⟩, f⟩
    · by_cases he : e = .unclaimed
      · subst he
        rcases ih fun i => alternative i.succ with ⟨hnone, hp⟩ | ⟨i, ⟨hbefore, hi⟩, hp⟩
        · exact .inl ⟨Fin.cases (by rw [h]) hnone, hp⟩
        · refine .inr ⟨i.succ, ⟨Fin.cases (fun _ => by rw [h]) fun j hj => ?_, hi⟩, hp⟩
          exact hbefore j (Fin.succ_lt_succ_iff.1 hj)
      · refine .inr ⟨0, claims_zero (by rw [h]; simpa using he), .inr ⟨e, by rw [h], ?_⟩⟩
        cases e with
        | unclaimed => exact absurd rfl he
        | _ => rfl
    · exact .inr ⟨0, claims_zero (by rw [h]; simp), .inl ⟨by rw [h], by rw [h]⟩⟩

theorem printFirst_merge (writers : List (Cursor → Outcome PrintError Unit)) (d : Cursor)
    {f : Cursor} (hf : f.query.WellFormed) :
    printFirst writers (d.merge f) =
      ((printFirst writers f).1, d.merge (printFirst writers f).2) := by
  induction writers with
  | nil => rfl
  | cons writer writers ih =>
    rw [printFirst, printFirst]
    rcases writer .empty with ⟨e | ⟨⟨⟩⟩, g⟩
    · cases e with
      | unclaimed => exact ih
      | _ => rfl
    · show (Except.ok (), (d.merge f).merge g) = (Except.ok (), d.merge (f.merge g))
      rw [Cursor.merge_assoc d hf]

/-! ## All matchers -/

/-- A body is written for the value. -/
def usesBody : {α : Type} → Matcher α → α → Bool
  | _, form _, _ => true
  | _, json _, _ => true
  | _, rawBody, _ => true
  | _, skip first next, a => first.usesBody a || next.usesBody ()
  | _, take first next, a => first.usesBody a.1 || next.usesBody a.2
  | _, whole inner, a => inner.usesBody a
  | _, map inner c, b => (c.unapply b).elim false inner.usesBody
  | _, choice _ alternative, a => (List.ofFn fun i => (alternative i).usesBody a).any id
  | _, _, _ => false

/-- What holds of each write holds of all that a matcher writes, also if it fails. The media types of
forms and of JSON are the only ones that are written. -/
theorem print_writes {R : Cursor → Cursor → Prop} (hR : Cursor.IsWriting R) {m : Matcher α} {a : α}
    (hbody : m.usesBody a = true → (∀ (d : Cursor) bytes, R d (d.setBody bytes)) ∧
      ∀ (d : Cursor), ∀ mediaType ∈ [Http.MediaType.form, .json], R d (d.setContentType mediaType))
    (d : Cursor) : R d (m.print a d).2 := by
  induction m generalizing d with
  | start => exact hR.refl d
  | literal text => exact hR.pushSegment d text
  | method m => exact hR.setMethod d m
  | rawBody => exact (hbody rfl).1 d a
  | segment c =>
    rw [print]
    cases c.unapply a with
    | none => exact hR.refl d
    | some text =>
      dsimp only
      split_ifs
      · exact hR.refl d
      · exact hR.pushSegment d text
  | query key c => exact printField_writes hR key c a d
  | optionalQuery key c =>
    cases a with
    | none => exact hR.refl d
    | some a => exact printField_writes hR key c a d
  | queryOr key c default =>
    rw [print]
    split_ifs
    · exact hR.refl d
    · exact printField_writes hR key c a d
  | queryAll key c => exact printFields_writes hR key c a d
  | form codec =>
    rw [print, printBody]
    cases codec.encode? a with
    | none => exact hR.refl d
    | some bytes => exact hR.trans ((hbody rfl).2 d .form (by simp)) ((hbody rfl).1 _ bytes)
  | json codec =>
    rw [print, printBody]
    cases codec.encode? a with
    | none => exact hR.refl d
    | some bytes => exact hR.trans ((hbody rfl).2 d .json (by simp)) ((hbody rfl).1 _ bytes)
  | skip first next ihf ihn =>
    have hfirst := ihf (fun h => hbody (by rw [usesBody, h, Bool.true_or])) d
    rw [print]
    generalize first.print a d = o at hfirst ⊢
    obtain ⟨_ | ⟨⟨⟩⟩, e⟩ := o
    · exact hfirst
    · exact hR.trans hfirst (ihn (fun h => hbody (by rw [usesBody, h, Bool.or_true])) e)
  | take first next ihf ihn =>
    have hfirst := ihf (fun h => hbody (by rw [usesBody, h, Bool.true_or])) d
    rw [print]
    generalize first.print a.1 d = o at hfirst ⊢
    obtain ⟨_ | ⟨⟨⟩⟩, e⟩ := o
    · exact hfirst
    · exact hR.trans hfirst (ihn (fun h => hbody (by rw [usesBody, h, Bool.or_true])) e)
  | whole inner ih => exact ih hbody d
  | map inner c ih =>
    rw [usesBody] at hbody
    rw [print]
    rcases hb : c.unapply a with _ | b
    · exact hR.refl d
    · rw [hb, Option.elim_some] at hbody
      have hinner := ih hbody .empty
      dsimp only
      generalize inner.print b .empty = o at hinner ⊢
      obtain ⟨e | ⟨⟨⟩⟩, f⟩ := o
      · cases e <;> exact hR.refl d
      · exact hR.merge d f hinner
  | choice count alternative ih =>
    have halternative (i : Fin count) (h : (alternative i).usesBody a = true) :
        (choice count alternative).usesBody a = true := by
      rw [usesBody, List.any_eq_true]
      exact ⟨_, List.mem_ofFn.2 ⟨i, rfl⟩, h⟩
    rcases print_choice alternative a d with ⟨-, h⟩ | ⟨i, -, ⟨-, h⟩ | ⟨e, -, h⟩⟩
    · rw [h]
      exact hR.refl d
    · rw [h]
      exact hR.merge d _ (ih i (fun hi => hbody (halternative i hi)) .empty)
    · rw [h]
      exact hR.refl d

theorem print_keeps (m : Matcher α) (a : α) (d : Cursor) : d.Keeps (m.print a d).2 :=
  print_writes Cursor.isWriting_keeps (fun _ => ⟨fun _ _ => ⟨id, rfl⟩, fun _ _ _ => ⟨id, rfl⟩⟩) d

/-- A write onto a merged cursor is a write onto the fragment, merged afterwards. -/
theorem print_merge (m : Matcher α) (a : α) (d : Cursor) {f : Cursor} (hf : f.query.WellFormed) :
    m.print a (d.merge f) = ((m.print a f).1, d.merge (m.print a f).2) := by
  induction m generalizing f with
  | start => rfl
  | literal text => simp only [print, Cursor.merge_pushSegment]
  | method m => simp only [print, Cursor.merge_setMethod]
  | rawBody => simp only [print, Cursor.merge_setBody]
  | segment c =>
    rw [print, print]
    cases c.unapply a with
    | none => rfl
    | some text =>
      dsimp only
      split_ifs
      · rfl
      · rw [Cursor.merge_pushSegment]
  | query key c => exact printField_merge key c a d hf
  | optionalQuery key c =>
    cases a with
    | none => rfl
    | some a => exact printField_merge key c a d hf
  | queryOr key c default =>
    rw [print, print]
    split_ifs
    · rfl
    · exact printField_merge key c a d hf
  | queryAll key c => exact printFields_merge key c a d hf
  | form codec => exact printBody_merge .form codec a d f
  | json codec => exact printBody_merge .json codec a d f
  | skip first next ihf ihn =>
    have hw := (print_keeps first a f).1 hf
    rw [print, print, ihf a hf]
    generalize first.print a f = o at hw ⊢
    obtain ⟨_ | ⟨⟨⟩⟩, g⟩ := o
    · rfl
    · exact ihn () hw
  | take first next ihf ihn =>
    have hw := (print_keeps first a.1 f).1 hf
    rw [print, print, ihf a.1 hf]
    generalize first.print a.1 f = o at hw ⊢
    obtain ⟨_ | ⟨⟨⟩⟩, g⟩ := o
    · rfl
    · exact ihn a.2 hw
  | whole inner ih => exact ih a hf
  | map inner c ih =>
    rw [print, print]
    cases c.unapply a with
    | none => rfl
    | some b =>
      dsimp only
      rcases inner.print b .empty with ⟨e | ⟨⟨⟩⟩, g⟩
      · cases e <;> rfl
      · show (Except.ok (), (d.merge f).merge g) = (Except.ok (), d.merge (f.merge g))
        rw [Cursor.merge_assoc d hf]
  | choice count alternative ih => exact printFirst_merge _ d hf

/-- A write onto any cursor is a write onto the empty one, merged afterwards. -/
theorem print_eq_merge (m : Matcher α) (a : α) (d : Cursor) :
    m.print a d = ((m.print a .empty).1, d.merge (m.print a .empty).2) := by
  have h := print_merge m a d (f := .empty) Query.wellFormed_empty
  rwa [Cursor.merge_empty] at h

/-! ## The law for the empty cursor -/

/-- Lists of query values are converted by text forms. -/
def Standard : {α : Type} → Matcher α → Prop
  | _, queryAll _ c => ∃ form : TextForm _, c = @Conversion.text _ form
  | _, skip first next => first.Standard ∧ next.Standard
  | _, take first next => first.Standard ∧ next.Standard
  | _, whole inner => inner.Standard
  | _, map inner _ => inner.Standard
  | _, choice _ alternative => ∀ i, (alternative i).Standard
  | _, _ => True

/-- A matcher of several parts, which may fail after some of them are written. -/
def IsSequence : {α : Type} → Matcher α → Bool
  | _, skip .. => true
  | _, take .. => true
  | _, whole .. => true
  | _, _ => false

/-- A field that is not written leaves the cursor as it was. -/
theorem printField_failed {key : String} {c : Conversion String α} {a : α} {d : Cursor}
    {e : PrintError} (h : (printField key c a d).1 = .error e) : (printField key c a d).2 = d := by
  unfold printField at h ⊢
  cases hc : c.unapply a with
  | none => rfl
  | some value => simp [hc] at h

/-- A text form writes every value, so a list of them is written whole. -/
theorem printFields_text [TextForm α] (key : String) (as : List α) (d : Cursor) :
    (printFields key (.text α) as d).1 = .ok () := by
  induction as generalizing d with
  | nil => rfl
  | cons a as ih => exact ih _

theorem printBody_failed {mediaType : Http.MediaType} {codec : BodyCodec α} {a : α} {d : Cursor}
    {e : PrintError} (h : (printBody mediaType codec a d).1 = .error e) :
    (printBody mediaType codec a d).2 = d := by
  unfold printBody at h ⊢
  cases hc : codec.encode? a with
  | none => rfl
  | some bytes => simp [hc] at h

/-- A matcher that is no sequence writes all of a value or nothing. -/
theorem print_failed {m : Matcher α} (hm : m.Standard) (hs : m.IsSequence = false) {a : α}
    {d : Cursor} {e : PrintError} (h : (m.print a d).1 = .error e) : (m.print a d).2 = d := by
  cases m with
  | start | literal | method | rawBody => simp [print] at h
  | segment c =>
    rw [print] at h ⊢
    cases hc : c.unapply a with
    | none => rfl
    | some text =>
      by_cases ht : text = ""
      · simp [ht]
      · simp [hc, ht] at h
  | query key c => exact printField_failed h
  | optionalQuery key c =>
    cases a with
    | none => simp [print] at h
    | some a => exact printField_failed h
  | queryOr key c default =>
    rw [print] at h ⊢
    split_ifs at h ⊢
    exact printField_failed h
  | queryAll key c =>
    obtain ⟨form, rfl⟩ := hm
    rw [print, printFields_text] at h
    cases h
  | form codec => exact printBody_failed h
  | json codec => exact printBody_failed h
  | skip first next => cases hs
  | take first next => cases hs
  | whole inner => cases hs
  | map inner c =>
    rw [print] at h ⊢
    cases hc : c.unapply a with
    | none => rfl
    | some b =>
      dsimp only
      rcases hp : inner.print b .empty with ⟨e' | ⟨⟨⟩⟩, f⟩
      · cases e' <;> rfl
      · simp [hc, hp] at h
  | choice count alternative =>
    rcases print_choice alternative a d with ⟨-, hp⟩ | ⟨i, -, ⟨-, hp⟩ | ⟨e', -, hp⟩⟩
    · rw [hp]
    · rw [hp] at h; cases h
    · rw [hp]

/-- Writing onto any cursor has the result of writing onto the empty one, and adds what that leaves as
a fragment, after a failure too. When a matcher that is no sequence fails, the fragment is empty and
the cursor is as it was. -/
theorem print_eq_merge_fragment (m : Matcher α) (a : α) (d : Cursor) :
    m.print a d = ((m.print a .empty).1, d.merge (m.print a .empty).2) ∧
      (m.Standard → m.IsSequence = false → ∀ e, (m.print a d).1 = .error e →
        (m.print a .empty).2 = .empty ∧ (m.print a d).2 = d) := by
  refine ⟨print_eq_merge m a d, fun hm hs e h => ⟨?_, print_failed hm hs h⟩⟩
  rw [print_eq_merge] at h
  exact print_failed hm hs h

/-- A search below a page whose text cannot be a segment. -/
def searchBelow : Matcher (String × String) :=
  (query "q" (.text String)).take (segment (.text String)) |>.map (.case id some)

/-- A value that is written before the empty segment is taken back with the fragment. -/
theorem print_searchBelow :
    searchBelow.Standard ∧ searchBelow.IsSequence = false ∧
      (searchBelow.print ("tea", "") { path := ["shop"] }).1 = .error .emptySegment ∧
      (searchBelow.print ("tea", "") .empty).2 = .empty ∧
      (searchBelow.print ("tea", "") { path := ["shop"] }).2 = { path := ["shop"] } := by
  have h : (searchBelow.print ("tea", "") { path := ["shop"] }).1 = .error .emptySegment := rfl
  exact ⟨⟨trivial, trivial⟩, rfl, h,
    (print_eq_merge_fragment searchBelow ("tea", "") { path := ["shop"] }).2
      ⟨trivial, trivial⟩ rfl .emptySegment h⟩

end Matcher

end Signpost

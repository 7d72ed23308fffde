import Signpost.Proofs.Router.QueryKeys

/-!
# Refused fields

An optional field with a value that its conversion refuses is read as if it were missing.

* `Matcher.Overlooks`: a matcher that finds no value in a field with a key and a first value, and reads on.
* `Cursor.LosesField`: a cursor with such a field, and the same cursor without it.
* `Matcher.isResemblance_losesField`: both are read alike by matchers that overlook the field.
* `Router.resolve_of_refused`: so they are resolved to the same route, or fail for the same reason.
-/

namespace Signpost

/-! ## Cursors that lose a field -/

/-- The second cursor is the first without a key, whose first value there is `value`. -/
structure Cursor.LosesField (key value : String) (d e : Cursor) : Prop where
  wellFormed : d.query.WellFormed
  first? : d.query.first? key = some value
  eq_popQuery : e = (d.popQuery key).2

namespace Cursor.LosesField

variable {key value : String} {d e : Cursor}

/-- All values of the field are gone. -/
theorem first?_eq_none (h : d.LosesField key value e) : e.query.first? key = none := by
  have hfind : e.query.find? key = none := by
    rw [h.eq_popQuery]
    show (d.query.erase key).find? key = none
    rw [Query.find?_erase h.wellFormed, if_pos rfl]
  rw [Query.first?, hfind]

/-- Other fields keep their values. -/
theorem find?_eq (h : d.LosesField key value e) {other : String} (hother : other ≠ key) :
    d.query.find? other = e.query.find? other := by
  rw [h.eq_popQuery]
  show _ = (d.query.erase key).find? other
  rw [Query.find?_erase h.wellFormed, if_neg hother]

/-- Another key is removed from both cursors. -/
theorem erase (h : d.LosesField key value e) {other : String} (hother : other ≠ key) :
    LosesField key value { d with query := d.query.erase other } { e with query := e.query.erase other } where
  wellFormed := h.wellFormed.erase other
  first? := by
    rw [Query.first?, Query.find?_erase h.wellFormed, if_neg hother.symm]
    exact h.first?
  eq_popQuery := by
    have hcomm : (d.query.erase key).erase other = (d.query.erase other).erase key := by
      refine congrArg Query.mk (List.eraseP_comm fun group _ => ?_)
      simp only [decide_eq_true_eq]
      by_cases hkey : group.1 = key
      · exact .inr fun h => hother (h.symm.trans hkey)
      · exact .inl hkey
    rw [h.eq_popQuery, popQuery, popQuery, hcomm]

end Cursor.LosesField

/-! ## Matchers that overlook a field -/

namespace Matcher

variable {α : Type} {key value : String} {d e : Cursor}

/-- The matcher is one of an optional field, or of a field with a default. -/
def isOptionalField : {α : Type} → Matcher α → Bool
  | _, optionalQuery _ _ => true
  | _, queryOr _ _ _ => true
  | _, _ => false

/-- The conversion of an optional field refuses the value. -/
def Refuses (value : String) : {α : Type} → Matcher α → Prop
  | _, optionalQuery _ c => c.apply value = none
  | _, queryOr _ c _ => c.apply value = none
  | _, _ => True

/-- The matcher reads the key only as an optional field. -/
def ReadsOptionally (key : String) {α : Type} (m : Matcher α) : Prop :=
  m.field? = some key → m.isOptionalField = true

/-- The matcher reads another key, or its conversion refuses the value. -/
def RefusesField (key value : String) {α : Type} (m : Matcher α) : Prop :=
  m.field? = some key → m.Refuses value

/-- The matcher finds no value in a field with the key and the value, and reads on. -/
def Overlooks (key value : String) {α : Type} (m : Matcher α) : Prop :=
  m.ReadsOptionally key ∧ m.RefusesField key value

/-- A refused value counts as none, like a missing one, and stays in the query. -/
theorem parseOptional_of_refused {c : Conversion String α} (hc : c.apply value = none)
    (h : d.LosesField key value e) :
    parseOptional key c d = (none, d) ∧ parseOptional key c e = (none, e) := by
  rw [parseOptional, parseOptional, h.first?, h.first?_eq_none, Option.bind_some, hc]
  exact ⟨rfl, rfl⟩

/-- A field that is overlooked is read alike where it is missing, and neither cursor changes. -/
theorem alike_of_overlooks {m : Matcher α} (hm : m.field? = some key) (hoverlooks : m.Overlooks key value)
    (h : d.LosesField key value e) : Alike Eq (Cursor.LosesField key value) (m.parse d) (m.parse e) := by
  obtain ⟨hoptional, hrefuses⟩ := hoverlooks
  cases m with
  | optionalQuery other c =>
    cases hm
    obtain ⟨hd, he⟩ := parseOptional_of_refused (hrefuses rfl) h
    rw [parse, parse, hd, he]
    exact .ok none h
  | queryOr other c default =>
    cases hm
    obtain ⟨hd, he⟩ := parseOptional_of_refused (hrefuses rfl) h
    rw [parse, parse, hd, he]
    exact .ok default h
  | query | queryAll => cases hoptional hm
  | _ => cases hm

/-- A cursor with a refused field and the cursor without it are read alike, with the same errors, by
matchers that overlook the field. -/
theorem isResemblance_losesField (key value : String) :
    IsResemblance (fun m _ => m.Overlooks key value) Eq (Cursor.LosesField key value) where
  refl _ := rfl
  path h := by rw [h.eq_popQuery, Cursor.popQuery]
  method h := by rw [h.eq_popQuery]; rfl
  withPath h path := ⟨h.wellFormed, h.first?, by rw [h.eq_popQuery]; rfl⟩
  field := by
    intro α m other hm d e hoverlooks h
    by_cases hother : other = key
    · subst hother
      exact alike_of_overlooks hm hoverlooks h
    · exact alike_of_field (fun _ => rfl) hm (h.find?_eq hother) h (h.erase hother)
  body hm d e _ h := by
    obtain ⟨hwf, hfirst, rfl⟩ := h
    exact alike_of_body (fun _ => rfl) hm rfl rfl ⟨hwf, hfirst, rfl⟩

end Matcher

/-! ## Requests with a refused field -/

namespace Router

variable {α : Type}

/-- A key that the root reads only as an optional field never changes what a request is resolved to, if
each conversion for the key refuses its first value: the outcome is that of the request without the key. -/
theorem resolve_of_refused (r : Router α) {d : Cursor} (hd : d.IsReachable) {key : String}
    (hoptional : r.root.Throughout (Matcher.ReadsOptionally key))
    (hrefuses : ∀ value, d.query.first? key = some value →
      r.root.Throughout (Matcher.RefusesField key value)) :
    r.resolve d = r.resolve (d.popQuery key).2 := by
  rcases hfirst : d.query.first? key with _ | value
  · -- the key is not there, so nothing is removed
    have hkey : key ∉ d.query.keys := by
      rw [← hd.wellFormed.exists_first?_iff, hfirst]
      nofun
    rw [Cursor.popQuery, Query.erase_of_notMem_keys hkey]
  · have hoverlooks : r.root.Throughout (Matcher.Overlooks key value) :=
      Matcher.Throughout.and hoptional (hrefuses value hfirst)
    have hloses : d.LosesField key value (d.popQuery key).2 := ⟨hd.wellFormed, hfirst, rfl⟩
    have halike := Matcher.parse_alike (Matcher.isResemblance_losesField key value)
      (Matcher.along_of_throughout (fun hm _ => hm) hoverlooks d) hloses
    refine r.resolve_of_alike rfl (fun h => ?_) halike
    rw [h.eq_popQuery]
    exact ⟨rfl, rfl⟩

/-- Notices and their archive, with a limit on how many are shown. For the notices its key also says whether
there is a limit. -/
def noticeTree : Matcher ((Unit × Option Bool) × Unsigned 8) :=
  .oneOf
    [ Matcher.start |>.skip (.literal "notices")
        |>.take (.optionalQuery "limit" (.text Bool))
        |>.take (.queryOr "limit" (.text (Unsigned 8)) ⟨10, by decide, by decide⟩) |>.whole,
      Matcher.start |>.skip (.literal "archive")
        |>.take (.optionalQuery "pinned" (.text Bool))
        |>.take (.queryOr "limit" (.text (Unsigned 8)) ⟨20, by decide, by decide⟩) |>.whole ]

def noticeRouter : Router ((Unit × Option Bool) × Unsigned 8) :=
  ⟨noticeTree, { secure := true, authority := { host := "tea.example" }, path := "/" }⟩

/-- The archive with a limit that has too many digits, and with a second value for it that is not looked at. -/
def longArchive : Cursor :=
  (((Cursor.empty.pushSegment "archive").pushQuery "limit" "256").pushQuery "pinned" "true").pushQuery
    "limit" "30"

/-- Every conversion refuses the limit, so the archive is shown with its default, as without one. -/
theorem resolve_longArchive : longArchive.IsReachable ∧ longArchive.query.first? "limit" = some "256" ∧
    noticeTree.Throughout (Matcher.ReadsOptionally "limit") ∧
    noticeTree.Throughout (Matcher.RefusesField "limit" "256") ∧
    noticeRouter.resolve (longArchive.popQuery "limit").2 =
      .ok (((), some true), ⟨20, by decide, by decide⟩) ∧
    noticeRouter.resolve longArchive = .ok (((), some true), ⟨20, by decide, by decide⟩) := by
  have hd : longArchive.IsReachable :=
    (((Cursor.IsReachable.empty.pushSegment _).pushQuery _ _).pushQuery _ _).pushQuery _ _
  have hfirst : longArchive.query.first? "limit" = some "256" := by decide
  have hoptional : noticeTree.Throughout (Matcher.ReadsOptionally "limit") := by
    simp [noticeTree, Matcher.throughout_oneOf, Matcher.Throughout, Matcher.ReadsOptionally, Matcher.field?,
      Matcher.isOptionalField]
  have hrefuses : noticeTree.Throughout (Matcher.RefusesField "limit" "256") := by
    have hbool : (Conversion.text Bool).apply "256" = none := by decide
    have hnumber : (Conversion.text (Unsigned 8)).apply "256" = none := by decide
    simp [noticeTree, Matcher.throughout_oneOf, Matcher.Throughout, Matcher.RefusesField, Matcher.field?,
      Matcher.Refuses, hbool, hnumber]
  have hwithout : noticeRouter.resolve (longArchive.popQuery "limit").2 =
      .ok (((), some true), ⟨20, by decide, by decide⟩) := by decide
  refine ⟨hd, hfirst, hoptional, hrefuses, hwithout, ?_⟩
  rw [resolve_of_refused noticeRouter hd hoptional fun value hvalue => ?_, hwithout]
  rw [hfirst] at hvalue
  cases hvalue
  exact hrefuses

end Router

end Signpost

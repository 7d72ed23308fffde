import Signpost.Proofs.Site.Form
import Signpost.Proofs.Site.Order

/-!
# New gifts in both encodings

A new gift is sent as a JSON document or as a form. The declared media type decides which of the two
alternatives reads it, and a gift in JSON need not declare one.

* `GiftForm.reencoded_json`, `GiftForm.reencoded_form`, `StripeEvent.reencoded`: every value is read back.
* `resolve_gift_encodings`: both encodings of a gift are resolved to the same route, whose audit succeeds,
  as does that of every event of the billing provider.
-/

namespace Signpost.Site

open Matcher Signpost.Field Signpost.Layout

/-! ## Bodies read back -/

theorem GiftForm.reencoded_json (g : GiftForm) : Reencoded GiftForm.record.json g :=
  GiftForm.returnsJson.decode?_encode? (by decide) g

theorem StripeEvent.reencoded (e : StripeEvent) : Reencoded StripeEvent.record.json e :=
  StripeEvent.returnsJson.decode?_encode? (by decide) e

/-- A date is never written as the empty text, so no gift loses one. -/
theorem GiftForm.reencoded_form (g : GiftForm) : Reencoded GiftForm.record.form g := by
  refine Record.Regains.decode?_encode? ?_ (Record.hasNames_of_all (by decide) (by decide))
  refine .map (a := (g.fromEmail, g.fromName, g.toEmail, g.toName, g.message, g.plan, g.deliverAt, ())) ?_ rfl
  refine .cons (regains_required (regains_text _) _) ?_ (by decide)
  refine .cons (regains_required (regains_text _) _) ?_ (by decide)
  refine .cons (regains_required (regains_text _) _) ?_ (by decide)
  refine .cons (regains_required (regains_text _) _) ?_ (by decide)
  refine .cons (regains_defaulted (regains_text _) _ _) ?_ (by decide)
  refine .cons (regains_required (regains_choice (GiftPlan.apply_name _)) _) ?_ (by decide)
  refine .cons (regains_optional_textForm (by decide) _ _) ?_ (by decide)
  exact Record.regains_nil

/-! ## Requests for a new gift -/

/-- A request to create a gift, with whatever query and body. -/
structure IsNewGift (d : Cursor) : Prop where
  method : d.method = .post
  path : d.path = ["gifts"]
  malformed : d.malformed = none

/-- A submission is read as the value of its matcher. -/
theorem parse_submission {α β : Type} {m : Http.Method} {inner : Matcher α} {wrap : Unit × α → β}
    {unwrap : β → Option (Unit × α)} {d e : Cursor} {a : α} (hmethod : d.method = m)
    (hinner : inner.parse d = (.ok a, e)) (hpath : e.path = []) :
    ((start.skip (method m)).take inner |>.whole |>.map (.case wrap unwrap)).parse d =
      (.ok (wrap ((), a)), e) := by
  have hskip : (start.skip (method m)).parse d = (.ok (), d) := by
    simp only [parse, if_pos hmethod]
  rw [parse, parse, parse, hskip]
  simp only [hinner, if_pos hpath]
  rfl

/-- An area is entered by its first segment. -/
theorem parse_area {α β : Type} {text : String} {inner : Matcher α} {wrap : Unit × α → β}
    {unwrap : β → Option (Unit × α)} {d e : Cursor} {a : α} {path : List String}
    (hd : d.path = text :: path) (hinner : inner.parse { d with path } = (.ok a, e)) (hpath : e.path = []) :
    ((start.skip (literal text)).take inner |>.whole |>.map (.case wrap unwrap)).parse d =
      (.ok (wrap ((), a)), e) := by
  have hskip : (start.skip (literal text)).parse d = (.ok (), { d with path }) := by
    simp only [parse, hd, if_true]
  rw [parse, parse, parse, hskip]
  simp only [hinner, if_pos hpath]
  rfl

variable {r : Router Route} {d : Cursor} {g : GiftForm} {bytes : Bytes}

/-- A new gift is resolved to what the area of the gifts reads. -/
theorem resolve_of_parse_gifts (hroot : r.root = tree) (hd : IsNewGift d)
    (h : (oneOf giftAlternatives).parse { d with path := [] } =
      (.ok (.create g), { d with path := [], body := none })) :
    r.resolve d = .ok (.gifts (.create g)) := by
  have harea : (alternatives.get ⟨9, by decide⟩).parse d =
      (.ok (.gifts (.create g)), { d with path := [], body := none }) := parse_area hd.path h rfl
  have hparse : r.root.parse d = (.ok (.gifts (.create g)), { d with path := [], body := none }) := by
    rw [hroot]
    exact parse_oneOf_of_pairwise (pairwise_not_reads conflicts_site d) harea
  exact Router.resolve_of_parse hd.malformed hparse rfl rfl

/-- A JSON document is read before it could be taken for a form. -/
theorem resolve_json (hroot : r.root = tree) (hd : IsNewGift d)
    (hdecode : GiftForm.record.json.decode? bytes = some g) (hbody : d.body = some bytes)
    (htype : ∀ t ∈ d.contentType, t.essence = Http.MediaType.json.essence) :
    r.resolve d = .ok (.gifts (.create g)) := by
  have hread : (giftAlternatives.get ⟨2, by decide⟩).parse { d with path := [] } =
      (.ok (.create g), { d with path := [], body := none }) :=
    parse_submission hd.method (parseBody_of_decode hdecode hbody htype) rfl
  refine resolve_of_parse_gifts hroot hd (parse_choice_of_before (fun j hj hreads => ?_) hread)
  obtain ⟨-, hlast, -⟩ := reads_gifts hj hreads ⟨_, congrArg Prod.fst hread⟩
  cases hlast

/-- A body that is declared as a form is not taken for a JSON document. -/
theorem resolve_form (hroot : r.root = tree) (hd : IsNewGift d)
    (hdecode : GiftForm.record.form.decode? bytes = some g) (hbody : d.body = some bytes)
    {t : Http.MediaType} (ht : d.contentType = some t) (htype : t.essence = Http.MediaType.form.essence) :
    r.resolve d = .ok (.gifts (.create g)) := by
  have hessence : ∀ u ∈ d.contentType, u.essence = Http.MediaType.form.essence := fun u hu =>
    (congrArg (·.essence) (Option.mem_unique hu ht)).trans htype
  have hread : (giftAlternatives.get ⟨3, by decide⟩).parse { d with path := [] } =
      (.ok (.create g), { d with path := [], body := none }) :=
    parse_submission hd.method (parseBody_of_decode hdecode hbody hessence) rfl
  refine resolve_of_parse_gifts hroot hd (parse_choice_of_before (fun j hj hreads => ?_) hread)
  obtain ⟨-, -, hnone⟩ := reads_gifts hj hreads ⟨_, congrArg Prod.fst hread⟩
  rw [ht] at hnone
  cases hnone

/-! ## Routes with a JSON document -/

theorem audit_newGift (hroot : r.root = tree) (g : GiftForm) :
    r.audit (.gifts (.create g)) = .ok () := by
  have hgift : (oneOf giftAlternatives).Spellable (.create g) := by
    rw [spellable_oneOf rfl]
    simp [GiftForm.reencoded_json]
  refine audit_of_hasBody hroot rfl ?_
  rw [tree, spellable_oneOf rfl]
  simp [hgift]

theorem audit_stripe (hroot : r.root = tree) (e : StripeEvent) :
    r.audit (.webhooks (.stripe e)) = .ok () := by
  have hevent : (oneOf webhookAlternatives).Spellable (.stripe e) := by
    rw [spellable_oneOf rfl]
    simp [StripeEvent.reencoded]
  refine audit_of_hasBody hroot rfl ?_
  rw [tree, spellable_oneOf rfl]
  simp [hevent]

/-- Every gift has an encoding as a JSON document and one as a form. A request to create a gift with the
document, declared as JSON or not at all, and one with the form, declared as such, are resolved to that
gift. The audit of that route succeeds, and so does that of every event of the billing provider. -/
theorem resolve_gift_encodings (hroot : r.root = tree) :
    (∀ g : GiftForm, ∃ document written, GiftForm.record.json.encode? g = some document ∧
      GiftForm.record.form.encode? g = some written ∧
      (∀ d, IsNewGift d → d.body = some document →
        (∀ t ∈ d.contentType, t.essence = Http.MediaType.json.essence) →
        r.resolve d = .ok (.gifts (.create g))) ∧
      (∀ d, IsNewGift d → d.body = some written →
        (∃ t, d.contentType = some t ∧ t.essence = Http.MediaType.form.essence) →
        r.resolve d = .ok (.gifts (.create g))) ∧
      r.audit (.gifts (.create g)) = .ok ()) ∧
    ∀ e : StripeEvent, r.audit (.webhooks (.stripe e)) = .ok () := by
  refine ⟨fun g => ?_, audit_stripe hroot⟩
  obtain ⟨document, hdocument, hjson⟩ := g.reencoded_json
  obtain ⟨written, hwritten, hform⟩ := g.reencoded_form
  refine ⟨document, written, hdocument, hwritten, ?_, ?_, audit_newGift hroot g⟩
  · exact fun d hd hbody htype => resolve_json hroot hd hjson hbody htype
  · rintro d hd hbody ⟨t, ht, htype⟩
    exact resolve_form hroot hd hform hbody ht htype

/-- A gift for a leap day, with texts that need escapes in both encodings. -/
def leapDayGift : GiftForm where
  fromEmail := "a&b@tea.example"
  fromName := "\"Ada\" \\ čaj\n"
  toEmail := "c=d@tea.example"
  toName := ""
  message := "50% + 1 = [x]"
  plan := .year
  deliverAt := some ⟨2024, 2, 29, by decide⟩

/-- The request for a new gift with a body of some media type. -/
def newGiftRequest (body : Bytes) (contentType : Http.MediaType) : Cursor :=
  { method? := some .post, path := ["gifts"], body := some body, contentType := some contentType }

/-- Both encodings of the gift are resolved to it. -/
theorem resolve_leapDayGift : ∃ r document written, router Router.defaultBase = .ok r ∧
    GiftForm.record.json.encode? leapDayGift = some document ∧
    GiftForm.record.form.encode? leapDayGift = some written ∧
    r.resolve (newGiftRequest document ⟨"application/json", "; charset=utf-8"⟩) =
      .ok (.gifts (.create leapDayGift)) ∧
    r.resolve (newGiftRequest written .form) = .ok (.gifts (.create leapDayGift)) := by
  obtain ⟨r, hr, hroot⟩ := exists_router
  obtain ⟨document, written, hdocument, hwritten, hjson, hform, -⟩ :=
    (resolve_gift_encodings hroot).1 leapDayGift
  refine ⟨r, document, written, hr, hdocument, hwritten, ?_, ?_⟩
  · refine hjson _ ⟨rfl, rfl, rfl⟩ rfl fun t ht => ?_
    cases ht
    rfl
  · exact hform _ ⟨rfl, rfl, rfl⟩ rfl ⟨_, rfl, rfl⟩

end Signpost.Site

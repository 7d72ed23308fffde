import Signpost.Proofs.Router.Exchange
import Signpost.Proofs.Site.Submission
import Signpost.Proofs.Site.Validity

/-!
# Forms of the site

Subscriptions, profiles, payment methods and events of email delivery are sent as forms. A form does not
tell an optional text that is empty from one that is not given.

* `Route.IsFilled`: no optional text in the form of the route is given and empty.
* `exists_request_of_audit_ok`: every route of the site that passes its audit is resolved from its request.
* `audit_form_eq_ok_iff`: a route with a form passes its audit exactly if the form is filled.
-/

namespace Signpost.Site

open Matcher Signpost.Field Signpost.Layout

/-! ## Requests of the site -/

/-- No matcher of the site tells an empty body from none. -/
theorem throughout_tree : tree.Throughout IgnoresEmptyBody := by
  rw [tree, throughout_oneOf]
  simp [alternatives, Throughout, IgnoresEmptyBody, throughout_oneOf, episodeAlternatives, blogAlternatives,
    accountAlternatives, invoicesAlternatives, paymentInfoAlternatives, giftAlternatives, teamAlternatives,
    webhookAlternatives, Record.json_decode?_nil]

/-- Every route of the site that passes its audit is sent as a request that is resolved to it. -/
theorem exists_request_of_audit_ok {r : Router Route} (hroot : r.root = tree) {route : Route}
    (h : r.audit route = .ok ()) :
    ∃ request, r.request route = .ok (some request) ∧ r.resolve (.ofRequest request) = .ok route :=
  Router.exists_request_of_throughout (hroot ▸ throughout_tree) h

/-- The paths of the routes with a body. -/
def bodyPaths : List (List String) :=
  [["account"], ["account", "payment-info"], ["gifts"], ["subscribe"], ["webhooks", "stripe"],
    ["webhooks", "mailgun"]]

theorem cases_of_hasBody {route : Route} (h : route.hasBody = true) :
    (∃ p, route = .account (.update p)) ∨ (∃ p, route = .account (.paymentInfo (.update p))) ∨
      (∃ g, route = .gifts (.create g)) ∨ (∃ s, route = .subscribe s) ∨
        (∃ e, route = .webhooks (.stripe e)) ∨ ∃ e, route = .webhooks (.mailgun e) := by
  cases route with
  | account route =>
    cases route with
    | update p => exact .inl ⟨p, rfl⟩
    | paymentInfo route =>
      cases route with
      | «show» => cases h
      | update p => exact .inr (.inl ⟨p, rfl⟩)
    | _ => cases h
  | gifts route =>
    cases route with
    | create g => exact .inr (.inr (.inl ⟨g, rfl⟩))
    | _ => cases h
  | subscribe s => exact .inr (.inr (.inr (.inl ⟨s, rfl⟩)))
  | webhooks route =>
    cases route with
    | stripe e => exact .inr (.inr (.inr (.inr (.inl ⟨e, rfl⟩))))
    | mailgun e => exact .inr (.inr (.inr (.inr (.inr ⟨e, rfl⟩))))
  | _ => cases h

/-- A route with a body is written with one of these paths and without a query. -/
theorem path_mem_bodyPaths {route : Route} (h : route.hasBody = true) :
    (tree.print route .empty).2.path ∈ bodyPaths ∧ (tree.print route .empty).2.query = {} := by
  rw [tree, print_oneOf]
  rcases cases_of_hasBody h with ⟨p, rfl⟩ | ⟨p, rfl⟩ | ⟨g, rfl⟩ | ⟨s, rfl⟩ | ⟨e, rfl⟩ | ⟨e, rfl⟩
  -- writing is computed up to the bytes of the body, which leave path and query alone
  all_goals
    simp [alternatives, accountAlternatives, paymentInfoAlternatives, giftAlternatives, webhookAlternatives,
      print_oneOf, print, printFirst, printBody, Conversion.case, Record.form, Record.json, Cursor.empty,
      Cursor.merge, Cursor.pushSegment, Cursor.setMethod, Cursor.setBody, Cursor.setContentType,
      Query.merge, Query.pairs, Query.pushAll, bodyPaths]

/-- A route with a body passes its audit if it is spelled, since its target is short. -/
theorem audit_of_hasBody {r : Router Route} (hroot : r.root = tree) {route : Route}
    (h : route.hasBody = true) (hspellable : tree.Spellable route) : r.audit route = .ok () := by
  obtain ⟨f, chain, hspells⟩ := exists_spells_of_spellable hspellable
  obtain ⟨hpath, hquery⟩ := path_mem_bodyPaths h
  rw [hspells.print] at hpath hquery
  have hshort : ∀ path ∈ bodyPaths,
      (String.ofList (Cursor.pathText path ++ Cursor.queryText {})).utf8ByteSize ≤ Http.Uri.maxBytes := by
    decide
  have hsize := hshort f.path hpath
  rw [← hquery] at hsize
  exact Router.audit_of_spellable (hroot ▸ isOrderly_tree) (hroot ▸ isSound_of_mem_chains)
    (hroot ▸ hspellable) (Router.tryPrint_of_spells (hroot ▸ hspells)) hsize

/-! ## Filled forms -/

/-- Neither code is given and empty. -/
def Subscription.IsFilled (s : Subscription) : Prop := s.coupon ≠ some "" ∧ s.referralCode ≠ some ""

/-- The name is not given and empty. -/
def Profile.IsFilled (p : Profile) : Prop := p.name ≠ some ""

/-- What is read from a form is filled. -/
theorem Subscription.isFilled_of_decode? {bytes : Bytes} {s : Subscription}
    (h : Subscription.record.form.decode? bytes = some s) : s.IsFilled := by
  obtain ⟨node, -, hread⟩ := Option.bind_eq_some_iff.1 h
  obtain ⟨entries, -, hrecord⟩ := Record.exists_ofFields? hread
  rw [Subscription.record, Record.ofFields?_map] at hrecord
  obtain ⟨⟨pricing, teammates, coupon, referralCode, discount, ⟨⟩⟩, hfields, rfl⟩ :=
    Option.map_eq_some_iff.1 hrecord
  simp only [Record.ofFields?_cons] at hfields
  obtain ⟨-, -, hcoupon, hreferral, -⟩ := hfields
  exact ⟨Record.ne_some_empty_of_look hcoupon, Record.ne_some_empty_of_look hreferral⟩

theorem Profile.isFilled_of_decode? {bytes : Bytes} {p : Profile}
    (h : Profile.record.form.decode? bytes = some p) : p.IsFilled := by
  obtain ⟨node, -, hread⟩ := Option.bind_eq_some_iff.1 h
  obtain ⟨entries, -, hrecord⟩ := Record.exists_ofFields? hread
  rw [Profile.record, Record.ofFields?_map] at hrecord
  obtain ⟨⟨email, name, emailSettings, ⟨⟩⟩, hfields, rfl⟩ := Option.map_eq_some_iff.1 hrecord
  simp only [Record.ofFields?_cons] at hfields
  exact Record.ne_some_empty_of_look hfields.2.1

/-! ## Forms read back -/

/-- A list of this length can be held in memory, where no vector has more than 2^63 - 1 items. -/
def IsShortList (ts : List String) : Prop := ts.length ≤ 0x7FFFFFFFFFFFFFFF

theorem IsShortList.lt {ts : List String} (h : IsShortList ts) : ts.length < UInt64.size := by
  have hlength : ts.length ≤ 0x7FFFFFFFFFFFFFFF := h
  show ts.length < 18446744073709551616
  omega

theorem Pricing.regains (levels : Nat) (p : Pricing) : Pricing.record.Regains levels p := by
  refine .map (a := (p.billing, p.quantity, ())) ?_ rfl
  refine .cons (regains_required (regains_choice (Billing.apply_name _)) _) ?_ (by decide)
  refine .cons (regains_required (regains_ranged _) _) ?_ (by decide)
  exact Record.regains_nil

/-- A filled subscription is read back from its form. -/
theorem Subscription.reencoded {s : Subscription} (h : s.IsFilled) (hshort : IsShortList s.teammates) :
    Reencoded Subscription.record.form s := by
  -- the plan is a record inside the record, one level below its fields
  have hpricing := (Pricing.regains (Form.firstLevels - 2) s.pricing).layout Pricing.hasNames
    (List.cons_ne_nil _ _)
  refine Record.Regains.decode?_encode? ?_ (Record.hasNames_of_all (by decide) (by decide))
  refine .map (a := (s.pricing, s.teammates, s.coupon, s.referralCode, s.useRegionalDiscount, ())) ?_ rfl
  refine .cons (regains_required hpricing _) ?_ (by decide)
  refine .cons (regains_list hshort.lt _) ?_ (by decide)
  refine .cons (regains_optional_text h.1 _) ?_ (by decide)
  refine .cons (regains_optional_text h.2 _) ?_ (by decide)
  refine .cons (regains_defaulted (regains_bool _) _ _) ?_ (by decide)
  exact Record.regains_nil

/-- A filled profile is read back from its form. -/
theorem Profile.reencoded {p : Profile} (h : p.IsFilled) (hshort : IsShortList p.emailSettings) :
    Reencoded Profile.record.form p := by
  refine Record.Regains.decode?_encode? ?_ (Record.hasNames_of_all (by decide) (by decide))
  refine .map (a := (p.email, p.name, p.emailSettings, ())) ?_ rfl
  refine .cons (regains_required (regains_text _) _) ?_ (by decide)
  refine .cons (regains_optional_text h _) ?_ (by decide)
  refine .cons (regains_list hshort.lt _) ?_ (by decide)
  exact Record.regains_nil

theorem PaymentInfo.reencoded (p : PaymentInfo) : Reencoded PaymentInfo.record.form p := by
  refine Record.Regains.decode?_encode? ?_ (Record.hasNames_of_all (by decide) (by decide))
  refine .map (a := (p.token, ())) ?_ rfl
  refine .cons (regains_required (regains_text _) _) ?_ (by decide)
  exact Record.regains_nil

theorem MailgunEvent.reencoded (e : MailgunEvent) : Reencoded MailgunEvent.record.form e := by
  refine Record.Regains.decode?_encode? ?_ (Record.hasNames_of_all (by decide) (by decide))
  refine .map (a := (e.event, e.recipient, e.timestamp, e.token, e.signature, ())) ?_ rfl
  refine .cons (regains_required (regains_text _) _) ?_ (by decide)
  refine .cons (regains_required (regains_text _) _) ?_ (by decide)
  refine .cons (regains_required (regains_ranged _) _) ?_ (by decide)
  refine .cons (regains_required (regains_text _) _) ?_ (by decide)
  refine .cons (regains_required (regains_text _) _) ?_ (by decide)
  exact Record.regains_nil

/-! ## Routes with a form -/

/-- The route is sent as a form. -/
def Route.hasForm : Route → Bool
  | account (.update _) => true
  | account (.paymentInfo (.update _)) => true
  | subscribe _ => true
  | webhooks (.mailgun _) => true
  | _ => false

/-- No optional text in the form of the route is given and empty. -/
def Route.IsFilled : Route → Prop
  | account (.update p) => p.IsFilled
  | subscribe s => s.IsFilled
  | _ => True

/-- The list in the form of the route can be held in memory. -/
def Route.HasShortLists : Route → Prop
  | account (.update p) => IsShortList p.emailSettings
  | subscribe s => IsShortList s.teammates
  | _ => True

theorem cases_of_hasForm {route : Route} (h : route.hasForm = true) :
    (∃ p, route = .account (.update p)) ∨ (∃ p, route = .account (.paymentInfo (.update p))) ∨
      (∃ s, route = .subscribe s) ∨ ∃ e, route = .webhooks (.mailgun e) := by
  unfold Route.hasForm at h
  split at h
  · rename_i p
    exact .inl ⟨p, rfl⟩
  · rename_i p
    exact .inr (.inl ⟨p, rfl⟩)
  · rename_i s
    exact .inr (.inr (.inl ⟨s, rfl⟩))
  · rename_i e
    exact .inr (.inr (.inr ⟨e, rfl⟩))
  · cases h

theorem hasBody_of_hasForm {route : Route} (h : route.hasForm = true) : route.hasBody = true := by
  rcases cases_of_hasForm h with ⟨p, rfl⟩ | ⟨p, rfl⟩ | ⟨s, rfl⟩ | ⟨e, rfl⟩ <;> rfl

/-- Routes with a filled form are spelled. -/
theorem spellable_of_isFilled {route : Route} (h : route.hasForm = true) (hshort : route.HasShortLists)
    (hfilled : route.IsFilled) : tree.Spellable route := by
  rw [tree]
  rcases cases_of_hasForm h with ⟨p, rfl⟩ | ⟨p, rfl⟩ | ⟨s, rfl⟩ | ⟨e, rfl⟩
  · have hp : (oneOf accountAlternatives).Spellable (.update p) := by
      rw [spellable_oneOf rfl]
      simp [Profile.reencoded hfilled hshort]
    rw [spellable_oneOf rfl]
    simp [hp]
  · have hp : (oneOf paymentInfoAlternatives).Spellable (.update p) := by
      rw [spellable_oneOf rfl]
      simp [PaymentInfo.reencoded]
    have hroute : (oneOf accountAlternatives).Spellable (.paymentInfo (.update p)) := by
      rw [spellable_oneOf rfl]
      simp [hp]
    rw [spellable_oneOf rfl]
    simp [hroute]
  · rw [spellable_oneOf rfl]
    simp [Subscription.reencoded hfilled hshort]
  · have he : (oneOf webhookAlternatives).Spellable (.mailgun e) := by
      rw [spellable_oneOf rfl]
      simp [MailgunEvent.reencoded]
    rw [spellable_oneOf rfl]
    simp [he]

/-- Values that are read are filled. -/
theorem isFilled_of_hasDecodedBodies {route : Route} (h : tree.HasDecodedBodies route) :
    route.IsFilled := by
  unfold Route.IsFilled
  split
  · rename_i p
    have harea := hasDecodedBodies_of_claims isOrderly_tree.exact rfl rfl h
    have hupdate := hasDecodedBodies_of_claims isOrderly_account.exact rfl rfl harea.2
    obtain ⟨bytes, hdecode⟩ := hupdate.2
    exact Profile.isFilled_of_decode? hdecode
  · rename_i s
    have hsubscribe := hasDecodedBodies_of_claims isOrderly_tree.exact rfl rfl h
    obtain ⟨bytes, hdecode⟩ := hsubscribe.2
    exact Subscription.isFilled_of_decode? hdecode
  · trivial

variable {r : Router Route}

/-- The forms of the routes that are resolved are filled. -/
theorem isFilled_of_resolve (hroot : r.root = tree) {route : Route} {d : Cursor}
    (h : r.resolve d = .ok route) : route.IsFilled := by
  obtain ⟨rest, hparse, -⟩ := Router.parse_of_resolve h
  rw [hroot] at hparse
  exact isFilled_of_hasDecodedBodies (hasDecodedBodies_of_parse hparse)

/-- A route with a form passes its audit exactly if the form is filled. Filled forms are sent as requests
that are resolved to them, and the others are resolved from no request. -/
theorem audit_form_eq_ok_iff (hroot : r.root = tree) {route : Route} (hform : route.hasForm = true)
    (hshort : route.HasShortLists) :
    (r.audit route = .ok () ↔ route.IsFilled) ∧
    (route.IsFilled → ∃ request, r.request route = .ok (some request) ∧
      r.resolve (.ofRequest request) = .ok route) ∧
    ∀ d, r.resolve d = .ok route → route.IsFilled := by
  have hfilled (d : Cursor) (h : r.resolve d = .ok route) : route.IsFilled := isFilled_of_resolve hroot h
  have haudit (h : route.IsFilled) : r.audit route = .ok () :=
    audit_of_hasBody hroot (hasBody_of_hasForm hform) (spellable_of_isFilled hform hshort h)
  refine ⟨⟨fun h => ?_, haudit⟩, fun h => exists_request_of_audit_ok hroot (haudit h), hfilled⟩
  obtain ⟨f, again, -, -, hresolve⟩ := Router.resolve_of_audit h
  exact hfilled again hresolve

/-- A subscription with separators in its texts, an empty one among them, and more than nine teammates. -/
def teamSubscription : Subscription where
  pricing := { billing := .yearly, quantity := ⟨12, Int.natCast_nonneg 12, by decide⟩ }
  teammates := ["a&b", "c=d", "e[0]", "+%2B", "čaj", "", "6", "7", "8", "9", "10"]
  coupon := some "50% & more"
  useRegionalDiscount := true

/-- It comes back from its form. -/
theorem audit_teamSubscription : ∃ r, router Router.defaultBase = .ok r ∧
    (Route.subscribe teamSubscription).hasForm = true ∧ (Route.subscribe teamSubscription).HasShortLists ∧
      (Route.subscribe teamSubscription).IsFilled ∧ r.audit (.subscribe teamSubscription) = .ok () := by
  obtain ⟨r, hr, hroot⟩ := exists_router
  have hshort : (Route.subscribe teamSubscription).HasShortLists := by
    show 11 ≤ 0x7FFFFFFFFFFFFFFF
    decide
  have hfilled : (Route.subscribe teamSubscription).IsFilled := by
    show some "50% & more" ≠ some "" ∧ none ≠ some ""
    decide
  exact ⟨r, hr, rfl, hshort, hfilled, (audit_form_eq_ok_iff hroot rfl hshort).1.2 hfilled⟩

/-- A subscription with an empty coupon. -/
def blankSubscription : Subscription where
  pricing := { billing := .monthly, quantity := ⟨1, firstPage.lo_le, firstPage.le_hi⟩ }
  coupon := some ""

/-- It comes back without the coupon. -/
theorem audit_blankSubscription : ∃ r, router Router.defaultBase = .ok r ∧
    r.audit (.subscribe blankSubscription) = .error (.mismatch .post "/subscribe") := by
  obtain ⟨r, hr, hroot⟩ := exists_router
  refine ⟨r, hr, ?_⟩
  -- the base url plays no part in an audit
  have htree : (Router.mk tree Router.rawRouter.base).audit (.subscribe blankSubscription) =
      .error (.mismatch .post "/subscribe") := by
    decide +kernel
  rw [← hroot] at htree
  exact htree

end Signpost.Site

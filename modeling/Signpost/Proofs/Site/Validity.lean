import Signpost.Proofs.Router.Request
import Signpost.Proofs.Site.Canonical
import Signpost.Proofs.Site.Id

/-!
# Valid routes

Routes may be built with identifiers that no address stands for: an invoice without its mark, a post or
a private feed with an empty part.

* `Route.IsValid`: the identifiers of the route are those of an address.
* `Route.hasBody`: the request of the route has a body.
* `spellable_tree_iff`: the tree spells exactly the valid routes, among those without a body.
* `audit_eq_ok_iff`: these pass their audit and are sent, unless their target is too long.
-/

namespace Signpost.Site

open Matcher

/-! ## Routes with a body -/

def PaymentInfoRoute.hasBody : PaymentInfoRoute → Bool
  | update _ => true
  | _ => false

def AccountRoute.hasBody : AccountRoute → Bool
  | update _ => true
  | paymentInfo route => route.hasBody
  | _ => false

def GiftRoute.hasBody : GiftRoute → Bool
  | create _ => true
  | _ => false

/-- The request of the route has a body: profiles, payment methods, gifts, subscriptions and events. -/
def Route.hasBody : Route → Bool
  | account route => route.hasBody
  | gifts route => route.hasBody
  | subscribe _ => true
  | webhooks _ => true
  | _ => false

/-- Routes without a body are written without one. -/
theorem usesBody_tree {route : Route} (h : route.hasBody = false) : tree.usesBody route = false := by
  cases route with
  | episode id route => cases route <;> rfl
  | blog route => cases route <;> rfl
  | account route =>
    cases route with
    | update => cases h
    | invoices route => cases route <;> rfl
    | paymentInfo route =>
      cases route with
      | «show» => rfl
      | update => cases h
    | _ => rfl
  | gifts route =>
    cases route with
    | create => cases h
    | _ => rfl
  | team route => cases route <;> rfl
  | subscribe => cases h
  | webhooks => cases h
  | _ => rfl

/-! ## Valid identifiers -/

/-- A slug is not empty. -/
def BlogPostId.IsValid (id : BlogPostId) : Prop := id.slug ≠ some ""

/-- The text of an invoice begins with the mark and goes on. -/
def InvoiceId.IsValid (id : InvoiceId) : Prop := ∃ rest, rest ≠ "" ∧ id.text = InvoiceId.mark ++ rest

def BlogRoute.IsValid : BlogRoute → Prop
  | .show id => id.IsValid
  | _ => True

def InvoicesRoute.IsValid : InvoicesRoute → Prop
  | .show id => id.IsValid
  | _ => True

/-- The salt of a private feed is not empty. -/
def AccountRoute.IsValid : AccountRoute → Prop
  | invoices route => route.IsValid
  | rss _ salt => salt ≠ ""
  | _ => True

/-- Every identifier of the route is that of an address. -/
def Route.IsValid : Route → Prop
  | blog route => route.IsValid
  | account route => route.IsValid
  | _ => True

/-! ## Written parts -/

section Parts

variable {α : Type} [TextForm α]

theorem regained_text [LawfulTextForm α] (a : α) : Regained (.text α) a :=
  ⟨_, rfl, TextForm.canonical?_write a⟩

/-- Where no value has the empty text, the segments are the values that are read back from their text. -/
theorem spellable_segment_iff (hempty : (TextForm.canonical? "" : Option α) = none) {a : α} :
    (segment (.text α)).Spellable a ↔ TextForm.canonical? (TextForm.write a) = some a := by
  constructor
  · rintro ⟨text, htext, ha, -⟩
    cases htext
    exact ha
  · intro ha
    refine ⟨_, rfl, ha, fun hwrite => ?_⟩
    rw [hwrite, hempty] at ha
    cases ha

theorem spellable_segment [LawfulTextForm α] (hempty : (TextForm.canonical? "" : Option α) = none)
    (a : α) : (segment (.text α)).Spellable a :=
  (spellable_segment_iff hempty).2 (TextForm.canonical?_write a)

end Parts

theorem spellable_salt {salt : String} : (segment (.text String)).Spellable salt ↔ salt ≠ "" := by
  constructor
  · rintro ⟨text, htext, -, hne⟩
    cases htext
    exact hne
  · intro hne
    exact ⟨_, rfl, TextForm.canonical?_write salt, hne⟩

theorem spellable_id {kind : Kind} (id : Id kind) : (segment (.text (Id kind))).Spellable id :=
  spellable_segment rfl id

theorem spellable_blogPostId {id : BlogPostId} :
    (segment (.text BlogPostId)).Spellable id ↔ id.IsValid := by
  rw [spellable_segment_iff (by decide), BlogPostId.canonical?_write_iff, BlogPostId.IsValid]

theorem spellable_invoiceId {id : InvoiceId} :
    (segment (.text InvoiceId)).Spellable id ↔ id.IsValid := by
  rw [spellable_segment_iff (by decide), InvoiceId.canonical?_write_iff, InvoiceId.IsValid]

theorem regained_billing (billing : Billing) : Regained Billing.conversion billing := by
  cases billing <;> exact ⟨_, rfl, rfl⟩

theorem regained_lane (lane : Lane) : Regained Lane.conversion lane := by
  cases lane <;> exact ⟨_, rfl, rfl⟩

theorem spellable_lane (lane : Lane) : (segment Lane.conversion).Spellable lane := by
  cases lane <;> exact ⟨_, rfl, rfl, by decide⟩

theorem spellable_giftPlan (plan : GiftPlan) : (segment GiftPlan.conversion).Spellable plan := by
  cases plan <;> exact ⟨_, rfl, rfl, by decide⟩

/-! ## Areas -/

theorem spellable_episode (route : EpisodeRoute) : (oneOf episodeAlternatives).Spellable route := by
  cases route <;> rw [spellable_oneOf rfl] <;> simp [regained_text]

theorem spellable_blog_iff {route : BlogRoute} :
    (oneOf blogAlternatives).Spellable route ↔ route.IsValid := by
  cases route <;> rw [spellable_oneOf rfl] <;>
    simp [regained_text, spellable_blogPostId, BlogRoute.IsValid]

theorem spellable_invoices_iff {route : InvoicesRoute} :
    (oneOf invoicesAlternatives).Spellable route ↔ route.IsValid := by
  cases route <;> rw [spellable_oneOf rfl] <;> simp [spellable_invoiceId, InvoicesRoute.IsValid]

theorem spellable_paymentInfo {route : PaymentInfoRoute} (h : route.hasBody = false) :
    (oneOf paymentInfoAlternatives).Spellable route := by
  cases route with
  | «show» =>
    rw [spellable_oneOf rfl]
    simp [regained_text]
  | update => cases h

theorem spellable_account_iff {route : AccountRoute} (h : route.hasBody = false) :
    (oneOf accountAlternatives).Spellable route ↔ route.IsValid := by
  cases route with
  | update => cases h
  | paymentInfo route =>
    rw [spellable_oneOf rfl]
    simp [spellable_paymentInfo h, AccountRoute.IsValid]
  | _ =>
    rw [spellable_oneOf rfl]
    simp [regained_billing, spellable_invoices_iff, spellable_id, spellable_salt,
      AccountRoute.IsValid]

theorem spellable_gifts {route : GiftRoute} (h : route.hasBody = false) :
    (oneOf giftAlternatives).Spellable route := by
  cases route with
  | create => cases h
  | _ =>
    rw [spellable_oneOf rfl]
    simp [spellable_giftPlan, spellable_id]

theorem spellable_team (route : TeamRoute) : (oneOf teamAlternatives).Spellable route := by
  cases route <;> rw [spellable_oneOf rfl] <;> simp [spellable_id]

/-- Among the routes without a body the tree spells the valid ones. -/
theorem spellable_tree_iff {route : Route} (h : route.hasBody = false) :
    tree.Spellable route ↔ route.IsValid := by
  rw [tree]
  cases route with
  | account route =>
    rw [spellable_oneOf rfl]
    simp [spellable_account_iff h, Route.IsValid]
  | gifts route =>
    rw [spellable_oneOf rfl]
    simp [spellable_gifts h, Route.IsValid]
  | subscribe => cases h
  | webhooks => cases h
  | _ =>
    rw [spellable_oneOf rfl]
    simp [regained_text, regained_billing, regained_lane, spellable_lane, spellable_id,
      spellable_episode, spellable_blog_iff, spellable_team, Route.IsValid]

/-! ## Audits -/

/-- A route without a body passes its audit exactly if its identifiers are valid and its target is not
too long. Valid routes can all be written, and those that pass are sent as requests that are resolved to
them. -/
theorem audit_eq_ok_iff {r : Router Route} (hroot : r.root = tree) {route : Route}
    (h : route.hasBody = false) :
    (r.audit route = .ok () ↔ route.IsValid ∧
      ∃ p, r.tryPrint route = .ok p ∧ p.pathString.utf8ByteSize ≤ Http.Uri.maxBytes) ∧
    (route.IsValid → ∃ p, r.tryPrint route = .ok p) ∧
    (r.audit route = .ok () → ∃ request, r.request route = .ok (some request) ∧
      r.resolve (.ofRequest request) = .ok route) := by
  have horderly : r.root.IsOrderly := hroot ▸ isOrderly_tree
  have hsound : ∀ chain ∈ r.root.chains, IsSound chain := hroot ▸ isSound_of_mem_chains
  have hbody : r.root.usesBody route = false := hroot ▸ usesBody_tree h
  have hvalid : r.root.Spellable route ↔ route.IsValid := hroot ▸ spellable_tree_iff h
  refine ⟨?_, ?_, Router.resolve_request horderly hsound hbody⟩
  · rw [Router.audit_eq_ok_iff_spellable horderly hsound hbody, hvalid]
  · intro hroute
    obtain ⟨f, chain, hspells⟩ := exists_spells_of_spellable (hvalid.2 hroute)
    exact ⟨f, Router.tryPrint_of_spells hspells⟩

/-- A private feed whose salt needs escapes. -/
def feedOfSubscriber : Route := .account (.rss ⟨⟨12, by decide, by decide⟩⟩ "sö/?")

/-- An invoice with nothing after its mark. -/
def unnamedInvoice : Route := .account (.invoices (.show ⟨"in_"⟩))

/-- The law decides both routes. -/
theorem audit_feedOfSubscriber : ∃ r, router Router.defaultBase = .ok r ∧
    feedOfSubscriber.hasBody = false ∧ r.audit feedOfSubscriber = .ok () ∧
      unnamedInvoice.hasBody = false ∧ r.audit unnamedInvoice ≠ .ok () := by
  obtain ⟨r, hr, hroot⟩ := exists_router
  refine ⟨r, hr, rfl, ?_, rfl, ?_⟩
  · have hvalid : feedOfSubscriber.IsValid := by
      show "sö/?" ≠ ""
      decide
    obtain ⟨p, hp⟩ := (audit_eq_ok_iff hroot rfl).2.1 hvalid
    have htree : (Router.mk tree r.base).tryPrint feedOfSubscriber = .ok p := by
      rw [← hroot]
      exact hp
    cases htree
    refine (audit_eq_ok_iff hroot rfl).1.2 ⟨hvalid, _, hp, ?_⟩
    decide
  · intro haudit
    obtain ⟨rest, hrest, htext⟩ := ((audit_eq_ok_iff hroot rfl).1.1 haudit).1
    have hlength := congrArg String.length htext
    rw [String.length_append] at hlength
    have hnil : rest.length = 0 := by
      change 3 = 3 + rest.length at hlength
      omega
    exact hrest (String.length_eq_zero_iff.1 hnil)

end Signpost.Site

import Signpost.Proofs.Body.Record
import Signpost.Proofs.Matcher.Acceptance
import Signpost.Proofs.Matcher.Order
import Signpost.Proofs.Site.Canonical
import Signpost.Proofs.Site.Row

/-!
# The pages of the site

A flat table of the requests without a body that the site accepts. Each area is documented by the rows of
its pages, and the tree by all of them.

* `pages`: the table, area by area.
* `Documents`: without a body, a matcher reads exactly the requests of some rows. `documents_below`: areas
  that stand behind a literal segment.
* `documents_blog`, `documents_tree` and so on: the rows of each area and of the site.
* `resolve_ok_iff_listed`: what the router answers to a request without a body.
-/

namespace Signpost.Site

open Matcher

/-! ## The table -/

def episodePages : List Row :=
  [ { method := .get, path := [.text "episodes", .id] },
    { method := .post, path := [.text "episodes", .id, .text "progress"],
      field := some ("percent", .number (2 ^ 8)) },
    { method := .get, path := [.text "episodes", .id, .text "comments"] } ]

def blogPages : List Row :=
  [ { method := .get, path := [.text "blog"] },
    { method := .get, path := [.text "blog", .text "feed", .text "atom.xml"] },
    { method := .get, path := [.text "blog", .text "posts", .post] } ]

def invoicesPages : List Row :=
  [ { method := .get, path := [.text "account", .text "invoices"] },
    { method := .get, path := [.text "account", .text "invoices", .text "upcoming"] },
    { method := .get, path := [.text "account", .text "invoices", .invoice] } ]

def paymentInfoPages : List Row :=
  [ { method := .get, path := [.text "account", .text "payment-info"] } ]

def accountPages : List Row :=
  [ { method := .get, path := [.text "account"] },
    { method := .post, path := [.text "account", .text "subscription", .text "cancel"] },
    { method := .post, path := [.text "account", .text "subscription", .text "reactivate"] },
    { method := .post, path := [.text "account", .text "subscription", .text "change"],
      field := some ("billing", .among ["monthly", "yearly"]) } ] ++
  invoicesPages ++ paymentInfoPages ++
  [ { method := .get, path := [.text "account", .text "rss", .id, .any] } ]

def giftPages : List Row :=
  [ { method := .get, path := [.text "gifts"] },
    { method := .get, path := [.text "gifts", .among ["threeMonths", "sixMonths", "year"]] },
    { method := .get, path := [.text "gifts", .id] },
    { method := .post, path := [.text "gifts", .id] } ]

def teamPages : List Row :=
  [ { method := .get, path := [.text "team", .text "invites", .id] },
    { method := .post, path := [.text "team", .text "invites", .id] },
    { method := .post, path := [.text "team", .text "leave"] },
    { method := .delete, path := [.text "team", .text "members", .id] } ]

/-- The requests without a body that the site accepts. -/
def pages : List Row :=
  [ { method := .get },
    { method := .get, path := [.text "about"] },
    { method := .get, path := [.text "pricing"] },
    { method := .get, path := [.text "episodes"] } ] ++
  episodePages ++
  [ { method := .get, path := [.text "search"], field := some ("q", .any) },
    { method := .get, path := [.text "feed", .text "episodes.xml"] } ] ++
  blogPages ++ accountPages ++ giftPages ++ teamPages ++
  [ { method := .get, path := [.text "subscribe", .among ["personal", "team"]] },
    { method := .get, path := [.text "login"] },
    { method := .get, path := [.text "logout"] } ]

/-! ## Areas -/

variable {α β : Type}

/-- Without a body, the matcher reads exactly the requests of the rows. -/
def Documents (rows : List Row) (m : Matcher α) : Prop :=
  ∀ d : Cursor, d.body.getD [] = [] → (m.Reads d ↔ Row.Listed rows d)

/-- Behind a literal segment, rows that begin with it are documented by what stands behind it. -/
theorem readsThen_literal_iff_listed {t : String} {rows : List Row} {K : Cursor → Prop} {d : Cursor}
    (hrows : ∀ row ∈ rows, row.path.head? = some (.text t))
    (hK : ∀ path, K { d with path } ↔ Row.Listed (rows.map Row.tail) { d with path }) :
    (literal t).ReadsThen K d ↔ Row.Listed rows d := by
  rw [readsThen_literal, Row.listed_iff_tail hrows]
  simp [hK]

/-- The same behind a segment whose conversion reads the texts of the first cell. -/
theorem readsThen_segment_iff_listed {c : Cell} {conversion : Conversion String α} {rows : List Row}
    {K : Cursor → Prop} {d : Cursor} (hrows : ∀ row ∈ rows, row.path.head? = some c)
    (hc : ∀ text, (conversion.apply text).isSome = true ↔ c.Accepts text)
    (hK : ∀ path, K { d with path } ↔ Row.Listed (rows.map Row.tail) { d with path }) :
    (segment conversion).ReadsThen K d ↔ Row.Listed rows d := by
  rw [readsThen_segment, Row.listed_iff_tail hrows]
  simp [hc, hK]

/-- An area behind a literal segment is documented by rows that begin with it. -/
theorem documents_below {t : String} {rows : List Row} {ms : List (Matcher α)}
    (hrows : ∀ row ∈ rows, row.path.head? = some (.text t))
    (hclosed : ∀ s ∈ (oneOf ms).shapes, s.closed = true) (h : Documents (rows.map Row.tail) (oneOf ms))
    (wrap : Unit × α → β) (unwrap : β → Option (Unit × α)) :
    Documents rows ((start.skip (literal t)).take (oneOf ms) |>.whole |>.map (.case wrap unwrap)) := by
  intro d hd
  rw [reads_case_whole, readsThen_take, readsThen_skip, readsThen_start]
  refine readsThen_literal_iff_listed hrows fun path => ?_
  rw [readsThen_of_closed hclosed]
  exact h { d with path } hd

theorem documents_episode :
    Documents ((episodePages.map Row.tail).map Row.tail) (oneOf episodeAlternatives) := by
  intro d _
  rw [reads_oneOf]
  simp [episodeAlternatives, episodePages, Row.tail, Row.fits_iff, Row.forall₂_cons_iff, isSome_number]

/-- The area of an episode stands behind a literal segment and its number. -/
theorem documents_below_episode (wrap : (Unit × EpisodeId) × EpisodeRoute → β)
    (unwrap : β → Option ((Unit × EpisodeId) × EpisodeRoute)) :
    Documents episodePages ((start.skip (literal "episodes")).take (segment (.text EpisodeId))
      |>.take (oneOf episodeAlternatives) |>.whole |>.map (.case wrap unwrap)) := by
  intro d hd
  rw [reads_case_whole, readsThen_take, readsThen_take, readsThen_skip, readsThen_start]
  refine readsThen_literal_iff_listed (by simp [episodePages]) fun path => ?_
  refine readsThen_segment_iff_listed (c := .id) (by simp [episodePages, Row.tail])
    (fun _ => isSome_id) fun rest => ?_
  rw [readsThen_of_closed (by decide)]
  exact documents_episode { d with path := rest } hd

theorem documents_blog : Documents (blogPages.map Row.tail) (oneOf blogAlternatives) := by
  intro d _
  rw [reads_oneOf]
  simp [blogAlternatives, blogPages, Row.tail, Row.fits_iff, Row.forall₂_cons_iff, isSome_post]

theorem documents_invoices :
    Documents ((invoicesPages.map Row.tail).map Row.tail) (oneOf invoicesAlternatives) := by
  intro d _
  rw [reads_oneOf]
  simp [invoicesAlternatives, invoicesPages, Row.tail, Row.fits_iff, Row.forall₂_cons_iff, isSome_invoice]

theorem documents_paymentInfo :
    Documents ((paymentInfoPages.map Row.tail).map Row.tail) (oneOf paymentInfoAlternatives) := by
  intro d hd
  have hform : PaymentInfo.record.form.decode? [] = none := Record.form_decode?_nil
  rw [reads_oneOf]
  simp [paymentInfoAlternatives, paymentInfoPages, Row.tail, Row.fits_iff, not_readsThen_form, hd, hform]

theorem documents_account : Documents (accountPages.map Row.tail) (oneOf accountAlternatives) := by
  intro d hd
  have hform : Profile.record.form.decode? [] = none := Record.form_decode?_nil
  have hinvoices (w : Unit × InvoicesRoute → AccountRoute) (u) := documents_below (t := "invoices")
    (by simp [invoicesPages, Row.tail]) (by decide) documents_invoices w u d hd
  have hpaymentInfo (w : Unit × PaymentInfoRoute → AccountRoute) (u) :=
    documents_below (t := "payment-info") (by simp [paymentInfoPages, Row.tail]) (by decide)
      documents_paymentInfo w u d hd
  rw [reads_oneOf]
  simp [accountAlternatives, hinvoices, hpaymentInfo, accountPages, Row.tail, Row.fits_iff,
    Row.forall₂_cons_iff, isSome_id, isSome_text, isSome_billing, not_readsThen_form, hd, hform]

theorem documents_gifts : Documents (giftPages.map Row.tail) (oneOf giftAlternatives) := by
  intro d hd
  have hform : GiftForm.record.form.decode? [] = none := Record.form_decode?_nil
  have hjson : GiftForm.record.json.decode? [] = none := Record.json_decode?_nil _
  rw [reads_oneOf]
  simp [giftAlternatives, giftPages, Row.tail, Row.fits_iff, Row.forall₂_cons_iff, isSome_id,
    isSome_giftPlan, not_readsThen_form, not_readsThen_json, hd, hform, hjson]

theorem documents_team : Documents (teamPages.map Row.tail) (oneOf teamAlternatives) := by
  intro d _
  rw [reads_oneOf]
  simp [teamAlternatives, teamPages, Row.tail, Row.fits_iff, Row.forall₂_cons_iff, isSome_id]

/-- Other services call with a body. -/
theorem documents_webhook : Documents (List.map Row.tail []) (oneOf webhookAlternatives) := by
  intro d hd
  have hform : MailgunEvent.record.form.decode? [] = none := Record.form_decode?_nil
  have hjson : StripeEvent.record.json.decode? [] = none := Record.json_decode?_nil _
  rw [reads_oneOf]
  simp [webhookAlternatives, not_readsThen_form, not_readsThen_json, hd, hform, hjson]

/-! ## The site -/

theorem documents_tree : Documents pages tree := by
  intro d hd
  have hform : Subscription.record.form.decode? [] = none := Record.form_decode?_nil
  have hepisodes (w : (Unit × EpisodeId) × EpisodeRoute → Route) (u) := documents_below_episode w u d hd
  have hblog (w : Unit × BlogRoute → Route) (u) :=
    documents_below (t := "blog") (by simp [blogPages]) (by decide) documents_blog w u d hd
  have haccount (w : Unit × AccountRoute → Route) (u) := documents_below (t := "account")
    (by simp [accountPages, invoicesPages, paymentInfoPages]) (by decide) documents_account w u d hd
  have hgifts (w : Unit × GiftRoute → Route) (u) :=
    documents_below (t := "gifts") (by simp [giftPages]) (by decide) documents_gifts w u d hd
  have hteam (w : Unit × TeamRoute → Route) (u) :=
    documents_below (t := "team") (by simp [teamPages]) (by decide) documents_team w u d hd
  have hwebhooks (w : Unit × WebhookRoute → Route) (u) :=
    documents_below (t := "webhooks") (by simp) (by decide) documents_webhook w u d hd
  rw [tree, reads_oneOf]
  simp [alternatives, pages, hepisodes, hblog, haccount, hgifts, hteam, hwebhooks, Row.fits_iff,
    Row.forall₂_cons_iff, isSome_text, isSome_lane, readsThen_queryAll, not_readsThen_form, hd, hform]

/-- Every alternative of the tree reads up to the end of the path. -/
theorem closed_tree : ∀ s ∈ tree.shapes, s.closed = true := by decide

/-- A request without a body is resolved exactly if it is listed, and no alternative matches any other. -/
theorem resolve_ok_iff_listed {r : Router Route} (hroot : r.root = tree) {d : Cursor}
    (hd : d.malformed = none) (hbody : d.isBodyConsumed = true) :
    ((∃ route, r.resolve d = .ok route) ↔ Row.Listed pages d) ∧
      (¬Row.Listed pages d → r.resolve d = .error .noAlternative) := by
  have hreads := documents_tree d (List.isEmpty_iff.1 hbody)
  by_cases hlisted : Row.Listed pages d
  · obtain ⟨route, hroute⟩ := hreads.2 hlisted
    have hparse : r.root.parse d = (.ok route, (tree.parse d).2) := by
      rw [hroot]
      exact Prod.ext hroute rfl
    have hpath : (tree.parse d).2.path = [] :=
      path_eq_nil_of_parse closed_tree (Prod.ext hroute rfl)
    have hrest : (tree.parse d).2.isBodyConsumed = true := (consumes_parse tree d).isBodyConsumed hbody
    have hok := Router.resolve_of_parse hd hparse (List.isEmpty_iff.2 hpath) hrest
    exact ⟨iff_of_true ⟨route, hok⟩ hlisted, fun hno => absurd hlisted hno⟩
  · have hfails : r.root.parse d = (.error .noAlternative, d) := by
      rw [hroot]
      exact parse_choice_of_forall fun i hi => hlisted (hreads.1 (reads_choice.2 ⟨i, hi⟩))
    have herror := Router.resolve_of_parse_error hd hfails
    refine ⟨iff_of_false ?_ hlisted, fun _ => herror⟩
    rintro ⟨route, hroute⟩
    rw [herror] at hroute
    cases hroute

/-- A request to leave a team, with an empty body. -/
def leaveRequest : Cursor := { method? := some .post, path := ["team", "leave"], body := some [] }

/-- It is listed, and only as a call of that method. -/
theorem resolve_leaveRequest : ∃ r, router Router.defaultBase = .ok r ∧
    leaveRequest.malformed = none ∧ leaveRequest.isBodyConsumed = true ∧
      (∃ route, r.resolve leaveRequest = .ok route) ∧
      r.resolve (leaveRequest.setMethod .get) = .error .noAlternative := by
  obtain ⟨r, hr, hroot⟩ := exists_router
  have hlisted : Row.Listed pages leaveRequest :=
    ⟨{ method := .post, path := [.text "team", .text "leave"] }, by simp [pages, teamPages],
      ⟨rfl, .cons rfl (.cons rfl .nil), nofun⟩⟩
  have hno : ¬Row.Listed pages (leaveRequest.setMethod .get) := by
    have hmethod : (leaveRequest.setMethod .get).method ≠ .post := by decide
    have hpath : (leaveRequest.setMethod .get).path = ["team", "leave"] := rfl
    simp [pages, episodePages, blogPages, accountPages, invoicesPages, paymentInfoPages, giftPages,
      teamPages, Row.fits_iff, hpath, hmethod]
  exact ⟨r, hr, rfl, rfl, (resolve_ok_iff_listed hroot rfl rfl).1.2 hlisted,
    (resolve_ok_iff_listed hroot rfl rfl).2 hno⟩

end Signpost.Site

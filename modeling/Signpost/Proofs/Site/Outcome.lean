import Signpost.Proofs.Router.Outcome
import Signpost.Proofs.Site.Order
import Signpost.Proofs.Site.Pages
import Signpost.Proofs.Site.Validity

/-!
# What the site answers

* `isIndifferent_tree`: bodies decide nothing between the alternatives of the site, area by area. Only the
  two encodings of a new gift are not apart, and the second needs a body.
* `resolve_outcomes`: the answers of the router of the site, and when a body is too much.
-/

namespace Signpost.Site

open Matcher

/-! ## Areas -/

theorem isIndifferent_episode : (oneOf episodeAlternatives).IsIndifferent :=
  isIndifferent_of_conflicts (by simp [episodeAlternatives]) conflicts_episode

theorem isIndifferent_blog : (oneOf blogAlternatives).IsIndifferent :=
  isIndifferent_of_conflicts (by simp [blogAlternatives]) conflicts_blog

theorem isIndifferent_invoices : (oneOf invoicesAlternatives).IsIndifferent :=
  isIndifferent_of_conflicts (by simp [invoicesAlternatives]) conflicts_invoices

theorem isIndifferent_paymentInfo : (oneOf paymentInfoAlternatives).IsIndifferent := by
  have hform : PaymentInfo.record.form.decode? [] = none := Record.form_decode?_nil
  exact isIndifferent_of_conflicts (by simp [paymentInfoAlternatives, hform]) conflicts_paymentInfo

theorem isIndifferent_account : (oneOf accountAlternatives).IsIndifferent := by
  have hform : Profile.record.form.decode? [] = none := Record.form_decode?_nil
  exact isIndifferent_of_conflicts
    (by simp [accountAlternatives, hform, isIndifferent_invoices, isIndifferent_paymentInfo])
    conflicts_account

/-- A new gift in a form is read only from a body. -/
theorem isIndifferent_gifts : (oneOf giftAlternatives).IsIndifferent := by
  have hform : GiftForm.record.form.decode? [] = none := Record.form_decode?_nil
  refine isIndifferent_oneOf (by simp [giftAlternatives, hform]) ?_
  refine List.pairwise_iff_get.2 fun i j hlt => ?_
  by_cases hnew : i.val = 2 ∧ j.val = 3
  · obtain ⟨⟨i, _⟩, ⟨j, _⟩⟩ := i, j
    obtain ⟨rfl, rfl⟩ := hnew
    refine .inr fun d hd hreads => ?_
    obtain ⟨a, ha⟩ := reads_of_submission hreads
    exact not_readsThen_form (K := fun _ => True) (by rw [hd]; rfl) hform
      ⟨a, _, Prod.ext ha rfl, trivial⟩
  · exact .inl (apart_gifts hlt hnew)

theorem isIndifferent_team : (oneOf teamAlternatives).IsIndifferent :=
  isIndifferent_of_conflicts (by simp [teamAlternatives]) conflicts_team

theorem isIndifferent_webhook : (oneOf webhookAlternatives).IsIndifferent := by
  have hform : MailgunEvent.record.form.decode? [] = none := Record.form_decode?_nil
  exact isIndifferent_of_conflicts (by simp [webhookAlternatives, hform]) conflicts_webhook

theorem isIndifferent_tree : tree.IsIndifferent := by
  have hform : Subscription.record.form.decode? [] = none := Record.form_decode?_nil
  exact isIndifferent_of_conflicts
    (by simp [alternatives, hform, isIndifferent_episode, isIndifferent_blog, isIndifferent_account,
      isIndifferent_gifts, isIndifferent_team, isIndifferent_webhook])
    conflicts_site

/-! ## The router -/

theorem isClosedChoice_router {r : Router Route} (hroot : r.root = tree) : r.IsClosedChoice where
  root := ⟨_, _, hroot⟩
  closed := hroot ▸ closed_tree

/-- The router of the site resolves a request, or the request is malformed, is one that no alternative
reads, or has a body that is left. A body is left exactly when it is not empty, the request is not malformed
and the same request without it is resolved. A request whose body is not empty is resolved only to a route
that carries one. -/
theorem resolve_outcomes {r : Router Route} (hroot : r.root = tree) (d : Cursor) :
    ((∃ route, r.resolve d = .ok route) ∨ (∃ cause, r.resolve d = .error (.malformedRequest cause)) ∨
        r.resolve d = .error .noAlternative ∨ r.resolve d = .error .unconsumedBody) ∧
      (r.resolve d = .error .unconsumedBody ↔ d.malformed = none ∧ d.isBodyConsumed = false ∧
        ∃ route, r.resolve { d with body := none } = .ok route) ∧
      ∀ route, d.isBodyConsumed = false → r.resolve d = .ok route → route.hasBody = true := by
  have hclosed := isClosedChoice_router hroot
  refine ⟨hclosed.resolve_cases d,
    hclosed.resolve_eq_unconsumedBody_iff (hroot ▸ isIndifferent_tree) d, fun route hbody h => ?_⟩
  have huses : tree.usesBody route = true :=
    hroot ▸ Router.usesBody_of_resolve (hroot ▸ isOrderly_tree.exact) hbody h
  by_contra hno
  rw [usesBody_tree (Bool.eq_false_iff.2 hno)] at huses
  cases huses

/-- A request to cancel a subscription that brings the form of a profile. -/
def cancelWithBody : Cursor where
  method? := some .post
  path := ["account", "subscription", "cancel"]
  body := some (Utf8.encode "name=Ada&email=ada@example.com".toList)
  contentType := some .form

/-- The body is too much: without it the request would be one to cancel the subscription. -/
theorem resolve_cancelWithBody : ∃ r, router Router.defaultBase = .ok r ∧
    r.resolve { cancelWithBody with body := none } = .ok (.account .cancel) ∧
    r.resolve cancelWithBody = .error .unconsumedBody := by
  obtain ⟨r, hr, hroot⟩ := exists_router
  have hwithout : r.resolve { cancelWithBody with body := none } = .ok (.account .cancel) := by
    rw [Router.resolve, hroot]
    decide
  exact ⟨r, hr, hwithout,
    (resolve_outcomes hroot cancelWithBody).2.1.2 ⟨rfl, by decide, _, hwithout⟩⟩

end Signpost.Site

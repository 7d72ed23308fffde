import Signpost.Proofs.Matcher.Case
import Signpost.Proofs.Site.Submission
import Signpost.Site.Tree

/-!
# The order of the tree of the site

The alternatives of each area are told apart by their methods and paths. Two pairs are not: the names of
gift plans and the numbers of gifts, which no text is both of, and the two encodings of a new gift, of
which only the first is written.

* `conflicts_episode` and so on: in all areas but the gifts, each pair of alternatives is told apart by its
  shapes. `apart_gifts`: of the gifts, only the two encodings are not apart.
* `isOrderly_tree`: the tree of the site is orderly.
* `isSound_of_mem_chains`, `exists_method_of_mem_chains`: no chain of the tree uses a feature twice, and
  each names a method.
-/

namespace Signpost.Site

open Matcher Conversion

/-! ## Choices -/

theorem Billing.exact_conversion : Billing.conversion.Exact := exact_enumeration (by decide) (by decide)

theorem Lane.exact_conversion : Lane.conversion.Exact := exact_enumeration (by decide) (by decide)

theorem GiftPlan.exact_conversion : GiftPlan.conversion.Exact := exact_enumeration (by decide) (by decide)

/-! ## Conflicts -/

theorem conflicts_episode : episodeAlternatives.Pairwise fun m n => m.conflicts n = true := by decide

theorem conflicts_blog : blogAlternatives.Pairwise fun m n => m.conflicts n = true := by decide

theorem conflicts_invoices : invoicesAlternatives.Pairwise fun m n => m.conflicts n = true := by decide

theorem conflicts_paymentInfo : paymentInfoAlternatives.Pairwise fun m n => m.conflicts n = true := by
  decide

theorem conflicts_account : accountAlternatives.Pairwise fun m n => m.conflicts n = true := by decide

theorem conflicts_team : teamAlternatives.Pairwise fun m n => m.conflicts n = true := by decide

theorem conflicts_webhook : webhookAlternatives.Pairwise fun m n => m.conflicts n = true := by decide

theorem conflicts_site : alternatives.Pairwise fun m n => m.conflicts n = true := by decide

/-! ## Areas -/

theorem isOrderly_episode : (oneOf episodeAlternatives).IsOrderly := by
  refine isOrderly_oneOf ?_ (fun a => ?_) conflicts_episode
  · simp [episodeAlternatives, isOrderly_case_iff, IsExact, IsComposable, IsExclusive, exact_text]
  · cases a <;> exact Nat.le_refl 1

theorem isOrderly_blog : (oneOf blogAlternatives).IsOrderly := by
  refine isOrderly_oneOf ?_ (fun a => ?_) conflicts_blog
  · simp [blogAlternatives, isOrderly_case_iff, IsExact, IsComposable, IsExclusive, exact_text]
  · cases a <;> exact Nat.le_refl 1

theorem isOrderly_invoices : (oneOf invoicesAlternatives).IsOrderly := by
  refine isOrderly_oneOf ?_ (fun a => ?_) conflicts_invoices
  · simp [invoicesAlternatives, isOrderly_case_iff, IsExact, IsComposable, IsExclusive, exact_text]
  · cases a <;> exact Nat.le_refl 1

theorem isOrderly_paymentInfo : (oneOf paymentInfoAlternatives).IsOrderly := by
  refine isOrderly_oneOf ?_ (fun a => ?_) conflicts_paymentInfo
  · simp [paymentInfoAlternatives, isOrderly_case_iff, IsExact, IsComposable, IsExclusive, exact_text,
      PaymentInfo.stable_form]
  · cases a <;> exact Nat.le_refl 1

theorem isOrderly_account : (oneOf accountAlternatives).IsOrderly := by
  have hinvoices := isOrderly_iff.1 isOrderly_invoices
  have hpayment := isOrderly_iff.1 isOrderly_paymentInfo
  refine isOrderly_oneOf ?_ (fun a => ?_) conflicts_account
  · simp [accountAlternatives, isOrderly_case_iff, IsExact, IsComposable, IsExclusive, exact_text,
      Billing.exact_conversion, Profile.stable_form, hinvoices, hpayment]
  · cases a <;> exact Nat.le_refl 1

theorem isOrderly_team : (oneOf teamAlternatives).IsOrderly := by
  refine isOrderly_oneOf ?_ (fun a => ?_) conflicts_team
  · simp [teamAlternatives, isOrderly_case_iff, IsExact, IsComposable, IsExclusive, exact_text]
  · cases a <;> exact Nat.le_refl 1

theorem isOrderly_webhook : (oneOf webhookAlternatives).IsOrderly := by
  refine isOrderly_oneOf ?_ (fun a => ?_) conflicts_webhook
  · simp [webhookAlternatives, isOrderly_case_iff, IsExact, IsComposable, IsExclusive,
      StripeEvent.stable_json, MailgunEvent.stable_form]
  · cases a <;> exact Nat.le_refl 1

/-! ## Gifts -/

/-- No name of a plan is the number of a gift. -/
theorem apply_giftId_of_plan {text : String} {plan : GiftPlan}
    (h : GiftPlan.conversion.apply text = some plan) :
    (Conversion.text GiftId).apply text = none := by
  have hname : GiftPlan.conversion.unapply plan = some text := GiftPlan.exact_conversion text plan h
  have hplan : GiftPlan.conversion.unapply plan = some plan.name := by cases plan <;> decide
  rw [hplan] at hname
  rw [← Option.some.inj hname]
  cases plan <;> decide

/-- Two alternatives with one segment are apart if no text is converted by both. -/
theorem apart_of_segments {α β γ : Type} {m n : Http.Method} {c : Conversion String α}
    {d : Conversion String β} {e : Conversion (Unit × α) γ} {e' : Conversion (Unit × β) γ}
    (h : ∀ text a, c.apply text = some a → d.apply text = none) :
    ((start.skip (method m)).take (segment c) |>.whole |>.map e).Apart
      ((start.skip (method n)).take (segment d) |>.whole |>.map e') := by
  rintro _ p q q' ⟨-, r, ⟨r', hr', -, hr⟩, text, a, ha, hq⟩ ⟨-, s, ⟨s', hs', -, hs⟩, text', b, hb, hq'⟩
  have hp : p = text :: q := hr'.trans (hr.trans hq)
  have hp' : p = text' :: q' := hs'.trans (hs.trans hq')
  obtain ⟨rfl, -⟩ := List.cons.inj (hp.symm.trans hp')
  rw [h text a ha] at hb
  cases hb

theorem conflicts_gifts : ∀ i j : Fin giftAlternatives.length, i < j →
    (giftAlternatives.get i).conflicts (giftAlternatives.get j) = true ∨
      (i.val = 1 ∧ j.val = 4) ∨ (i.val = 2 ∧ j.val = 3) := by
  decide

/-- No request is for two alternatives of the gifts, except for a new gift. -/
theorem apart_gifts {i j : Fin giftAlternatives.length} (hlt : i < j) (h : ¬(i.val = 2 ∧ j.val = 3)) :
    (giftAlternatives.get i).Apart (giftAlternatives.get j) := by
  rcases conflicts_gifts i j hlt with hshapes | ⟨hi, hj⟩ | hnew
  · exact apart_of_conflicts hshapes
  · obtain ⟨⟨i, _⟩, ⟨j, _⟩⟩ := i, j
    obtain rfl : i = 1 := hi
    obtain rfl : j = 4 := hj
    exact apart_of_segments fun _ _ => apply_giftId_of_plan
  · exact absurd hnew h

/-- Only a new gift has two alternatives. -/
theorem claims_gifts (a : GiftRoute) : ∀ i j : Fin giftAlternatives.length, i < j →
    ¬(i.val = 2 ∧ j.val = 3) → (giftAlternatives.get j).claims a = true →
    (giftAlternatives.get i).claims a = false := by
  cases a <;> exact of_decide_eq_true rfl

/-- A new gift is written in JSON, also if it was spelled as a form. -/
theorem replaces_gifts : (giftAlternatives.get ⟨2, by decide⟩).Replaces
    (giftAlternatives.get ⟨3, by decide⟩) := by
  refine .inr fun a f chain h => ?_
  have hprint := h.print
  cases a with
  | create gift =>
    obtain ⟨bytes, hencode, hdecode⟩ := GiftForm.returnsJson.decode?_encode? (by decide) gift
    cases hprint
    exact ⟨_, _, .map rfl rfl (.whole (.take (.skip .start (.method _)) (.json hencode hdecode))),
      rfl, rfl, rfl⟩
  | _ => cases hprint

theorem isOrderly_gifts : (oneOf giftAlternatives).IsOrderly := by
  refine isOrderly_of_pairwise ?_ ?_ ?_
  · simp [giftAlternatives, isOrderly_case_iff, IsExact, IsComposable, IsExclusive, exact_text,
      GiftPlan.exact_conversion, GiftForm.stable_form, GiftForm.stable_json]
  · refine List.pairwise_iff_get.2 fun i j hlt => ?_
    by_cases h : i.val = 2 ∧ j.val = 3
    · obtain ⟨⟨i, hi⟩, ⟨j, hj⟩⟩ := i, j
      obtain ⟨rfl, rfl⟩ := h
      exact replaces_gifts
    · exact replaces_of_claims fun a => claims_gifts a i j hlt h
  · refine List.pairwise_iff_get.2 fun i j hlt => ?_
    by_cases h : i.val = 2 ∧ j.val = 3
    · obtain ⟨⟨i, _⟩, ⟨j, _⟩⟩ := i, j
      obtain ⟨rfl, rfl⟩ := h
      refine .inr fun a h => print_of_not_claims ?_ .empty
      have hnone := unapply_of_print h
      exact Option.isSome_eq_false_iff.2 (Option.isNone_iff_eq_none.2 hnone)
    · exact .inl (apart_gifts hlt h)

/-! ## The tree -/

/-- The tree of the site is orderly. -/
theorem isOrderly_tree : tree.IsOrderly := by
  have hepisode := isOrderly_iff.1 isOrderly_episode
  have hblog := isOrderly_iff.1 isOrderly_blog
  have haccount := isOrderly_iff.1 isOrderly_account
  have hgifts := isOrderly_iff.1 isOrderly_gifts
  have hteam := isOrderly_iff.1 isOrderly_team
  have hwebhook := isOrderly_iff.1 isOrderly_webhook
  refine isOrderly_oneOf ?_ (fun a => ?_) conflicts_site
  · simp [alternatives, isOrderly_case_iff, IsExact, IsComposable, IsExclusive, exact_text,
      Billing.exact_conversion, Lane.exact_conversion, Subscription.stable_form, hepisode, hblog,
      haccount, hgifts, hteam, hwebhook]
  · cases a <;> exact Nat.le_refl 1

/-- No chain of the tree uses a feature in two conflicting ways. -/
theorem isSound_of_mem_chains : ∀ chain ∈ tree.chains, IsSound chain := by decide

/-- Every chain of the tree names a method. -/
theorem exists_method_of_mem_chains {chain : List Feature} (h : chain ∈ tree.chains) :
    ∃ m, .method m ∈ chain := by
  have hall : ∀ chain ∈ tree.chains,
      .method .get ∈ chain ∨ .method .post ∈ chain ∨ .method .delete ∈ chain := by
    decide
  rcases hall chain h with hmem | hmem | hmem
  · exact ⟨_, hmem⟩
  · exact ⟨_, hmem⟩
  · exact ⟨_, hmem⟩

end Signpost.Site

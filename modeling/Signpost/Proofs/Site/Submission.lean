import Signpost.Proofs.Body.Form
import Signpost.Proofs.Body.Json
import Signpost.Proofs.Calendar.Date
import Signpost.Proofs.Matcher.Exact
import Signpost.Site.Submission

/-!
# Submissions read back

Each record of the site is read back from its body: in JSON every value, in a form every value that was
read from one.

* `GiftForm.returnsJson`, `StripeEvent.returnsJson`: the records in JSON.
* `Subscription.stable_form`, `Profile.stable_form`, `PaymentInfo.stable_form`, `GiftForm.stable_form`,
  `MailgunEvent.stable_form`: the records in forms.
-/

namespace Signpost

variable {α : Type}

theorem Record.ReturnsJson.stable {r : Record α} (hr : r.ReturnsJson) (hn : r.names.Nodup) :
    r.json.Stable :=
  fun _ a _ _ => hr.decode?_encode? hn a

theorem Record.ReturnsForm.stable {r : Record α} (hr : r.ReturnsForm (Form.firstLevels - 1))
    (hn : r.HasNames) : r.form.Stable :=
  fun _ _ hbytes h => hr.decode?_encode? hn hbytes h

/-- Names that begin with a letter, one after another. -/
theorem Form.isName_of_head? {name : String} (h : name.toList.head?.any (!·.isDigit) = true) :
    Form.IsName name := by
  unfold Form.IsName
  cases hname : name.toList with
  | nil => simp [hname] at h
  | cons c cs =>
    rw [hname] at h
    exact ⟨c, cs, rfl, by simpa using h⟩

theorem Record.hasNames_of_all {r : Record α} (hnodup : r.names.Nodup)
    (h : r.names.all (fun name => name.toList.head?.any (!·.isDigit)) = true) : r.HasNames :=
  ⟨hnodup, fun name hname => Form.isName_of_head? (List.all_eq_true.1 h name hname)⟩

namespace Site

open Signpost.Field Signpost.Layout

/-! ## Choices -/

theorem Billing.apply_name (b : Billing) : Billing.conversion.apply b.name = some b := by
  cases b <;> decide

theorem GiftPlan.apply_name (p : GiftPlan) : GiftPlan.conversion.apply p.name = some p := by
  cases p <;> decide

theorem Date.keepsEmpty : (Layout.ofTextForm Date).KeepsEmpty :=
  keepsEmpty_ofTextForm (by decide)

/-! ## Subscriptions -/

theorem Pricing.returnsForm (levels : Nat) : Pricing.record.ReturnsForm levels := by
  refine .map ?_ fun _ => rfl
  refine .cons (returnsForm_required (returnsForm_choice Billing.apply_name) _) ?_ (by decide)
  refine .cons (returnsForm_required (returnsForm_ranged _ _) _) ?_ (by decide)
  exact Record.returnsForm_nil

theorem Pricing.hasNames : Pricing.record.HasNames := Record.hasNames_of_all (by decide) (by decide)

theorem Subscription.returnsForm (levels : Nat) : Subscription.record.ReturnsForm (levels + 1) := by
  have hpricing := (Pricing.returnsForm levels).layout Pricing.hasNames fun _ => List.cons_ne_nil _ _
  have hmissing : Layout.bool.ofForm? (.flat "false") = some false := by decide
  refine .map ?_ fun _ => rfl
  refine .cons (returnsForm_required hpricing _) ?_ (by decide)
  refine .cons (returnsForm_list _) ?_ (by decide)
  refine .cons (returnsForm_optional returnsForm_text keepsEmpty_text _) ?_ (by decide)
  refine .cons (returnsForm_optional returnsForm_text keepsEmpty_text _) ?_ (by decide)
  refine .cons (returnsForm_defaulted returnsForm_bool (Form.Node.isShort_flat _) hmissing _) ?_ (by decide)
  exact Record.returnsForm_nil

theorem Subscription.stable_form : Subscription.record.form.Stable :=
  (Subscription.returnsForm _).stable (Record.hasNames_of_all (by decide) (by decide))

/-! ## Accounts -/

theorem Profile.returnsForm (levels : Nat) : Profile.record.ReturnsForm (levels + 1) := by
  refine .map ?_ fun _ => rfl
  refine .cons (returnsForm_required returnsForm_text _) ?_ (by decide)
  refine .cons (returnsForm_optional returnsForm_text keepsEmpty_text _) ?_ (by decide)
  refine .cons (returnsForm_list _) ?_ (by decide)
  exact Record.returnsForm_nil

theorem Profile.stable_form : Profile.record.form.Stable :=
  (Profile.returnsForm _).stable (Record.hasNames_of_all (by decide) (by decide))

theorem PaymentInfo.returnsForm (levels : Nat) : PaymentInfo.record.ReturnsForm levels := by
  refine .map ?_ fun _ => rfl
  refine .cons (returnsForm_required returnsForm_text _) ?_ (by decide)
  exact Record.returnsForm_nil

theorem PaymentInfo.stable_form : PaymentInfo.record.form.Stable :=
  (PaymentInfo.returnsForm _).stable (Record.hasNames_of_all (by decide) (by decide))

/-! ## Gifts -/

theorem GiftForm.returnsForm (levels : Nat) : GiftForm.record.ReturnsForm levels := by
  have hmissing : Layout.text.ofForm? (.flat "") = some "" := rfl
  refine .map ?_ fun _ => rfl
  refine .cons (returnsForm_required returnsForm_text _) ?_ (by decide)
  refine .cons (returnsForm_required returnsForm_text _) ?_ (by decide)
  refine .cons (returnsForm_required returnsForm_text _) ?_ (by decide)
  refine .cons (returnsForm_required returnsForm_text _) ?_ (by decide)
  refine .cons (returnsForm_defaulted returnsForm_text (Form.Node.isShort_flat _) hmissing _) ?_ (by decide)
  refine .cons (returnsForm_required (returnsForm_choice GiftPlan.apply_name) _) ?_ (by decide)
  refine .cons (returnsForm_optional returnsForm_ofTextForm Date.keepsEmpty _) ?_ (by decide)
  exact Record.returnsForm_nil

theorem GiftForm.stable_form : GiftForm.record.form.Stable :=
  (GiftForm.returnsForm _).stable (Record.hasNames_of_all (by decide) (by decide))

theorem GiftForm.returnsJson : GiftForm.record.ReturnsJson := by
  refine .map ?_ fun _ => rfl
  refine .cons (returnsJson_required returnsJson_text _) ?_ (by decide)
  refine .cons (returnsJson_required returnsJson_text _) ?_ (by decide)
  refine .cons (returnsJson_required returnsJson_text _) ?_ (by decide)
  refine .cons (returnsJson_required returnsJson_text _) ?_ (by decide)
  refine .cons (returnsJson_defaulted returnsJson_text _ _) ?_ (by decide)
  refine .cons (returnsJson_required (returnsJson_choice GiftPlan.apply_name) _) ?_ (by decide)
  refine .cons (returnsJson_optional returnsJson_ofTextForm _) ?_ (by decide)
  exact Record.returnsJson_nil

theorem GiftForm.stable_json : GiftForm.record.json.Stable :=
  GiftForm.returnsJson.stable (by decide)

/-! ## Events -/

theorem StripeObject.returnsJson : StripeObject.record.ReturnsJson := by
  refine .map ?_ fun _ => rfl
  refine .cons (returnsJson_required returnsJson_text _) ?_ (by decide)
  refine .cons (returnsJson_optional returnsJson_text _) ?_ (by decide)
  exact Record.returnsJson_nil

theorem StripeObject.returnsJson_wrapped : StripeObject.wrapped.ReturnsJson := by
  refine .map ?_ fun _ => rfl
  refine .cons (returnsJson_required (StripeObject.returnsJson.layout (by decide)) _) ?_ (by decide)
  exact Record.returnsJson_nil

theorem StripeEvent.returnsJson : StripeEvent.record.ReturnsJson := by
  have hdata := StripeObject.returnsJson_wrapped.layout (by decide)
  refine .map ?_ fun _ => rfl
  refine .cons (returnsJson_required returnsJson_text _) ?_ (by decide)
  refine .cons (returnsJson_required returnsJson_text _) ?_ (by decide)
  refine .cons (returnsJson_required (returnsJson_ranged _ _) _) ?_ (by decide)
  refine .cons (returnsJson_defaulted returnsJson_bool _ _) ?_ (by decide)
  refine .cons (returnsJson_required hdata _) ?_ (by decide)
  exact Record.returnsJson_nil

theorem StripeEvent.stable_json : StripeEvent.record.json.Stable :=
  StripeEvent.returnsJson.stable (by decide)

theorem MailgunEvent.returnsForm (levels : Nat) : MailgunEvent.record.ReturnsForm levels := by
  refine .map ?_ fun _ => rfl
  refine .cons (returnsForm_required returnsForm_text _) ?_ (by decide)
  refine .cons (returnsForm_required returnsForm_text _) ?_ (by decide)
  refine .cons (returnsForm_required (returnsForm_ranged _ _) _) ?_ (by decide)
  refine .cons (returnsForm_required returnsForm_text _) ?_ (by decide)
  refine .cons (returnsForm_required returnsForm_text _) ?_ (by decide)
  exact Record.returnsForm_nil

theorem MailgunEvent.stable_form : MailgunEvent.record.form.Stable :=
  (MailgunEvent.returnsForm _).stable (Record.hasNames_of_all (by decide) (by decide))

end Site

end Signpost

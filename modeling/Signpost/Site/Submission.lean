import Signpost.Body.Record
import Signpost.Calendar.Date
import Signpost.Site.Plan

/-!
# Submissions

The records that requests to the site carry in their bodies, each with its fields.
-/

namespace Signpost.Site

/-! ## Subscriptions -/

/-- The plan of a subscription. -/
structure Pricing where
  billing : Billing
  quantity : Unsigned 32
deriving DecidableEq

def Pricing.record : Record Pricing :=
  Record.map
    (.cons (.required "billing" Billing.layout) <|
      .cons (.required "quantity" (.ranged _ _)) .nil)
    (fun (billing, quantity, ()) => { billing, quantity })
    (fun p => (p.billing, p.quantity, ()))

/-- The form of a new subscription. -/
structure Subscription where
  pricing : Pricing
  teammates : List String := []
  coupon : Option String := none
  referralCode : Option String := none
  useRegionalDiscount : Bool := false
deriving DecidableEq

def Subscription.record : Record Subscription :=
  Record.map
    (.cons (.required "pricing" Pricing.record.layout) <|
      .cons (.list "teammates") <|
      .cons (.optional "coupon" .text) <|
      .cons (.optional "referral_code" .text) <|
      .cons (.defaulted "use_regional_discount" .bool false) .nil)
    (fun (pricing, teammates, coupon, referralCode, useRegionalDiscount, ()) =>
      { pricing, teammates, coupon, referralCode, useRegionalDiscount })
    (fun s => (s.pricing, s.teammates, s.coupon, s.referralCode, s.useRegionalDiscount, ()))

/-! ## Accounts -/

/-- The form of a profile. The email settings name the newsletters of the user. -/
structure Profile where
  email : String
  name : Option String := none
  emailSettings : List String := []
deriving DecidableEq

def Profile.record : Record Profile :=
  Record.map
    (.cons (.required "email" .text) <|
      .cons (.optional "name" .text) <|
      .cons (.list "email_settings") .nil)
    (fun (email, name, emailSettings, ()) => { email, name, emailSettings })
    (fun p => (p.email, p.name, p.emailSettings, ()))

/-- The form of a payment method. -/
structure PaymentInfo where
  token : String
deriving DecidableEq

def PaymentInfo.record : Record PaymentInfo :=
  Record.map (.cons (.required "token" .text) .nil) (fun (token, ()) => { token })
    (fun p => (p.token, ()))

/-! ## Gifts -/

/-- The form of a gift, which is delivered right away when it has no date. -/
structure GiftForm where
  fromEmail : String
  fromName : String
  toEmail : String
  toName : String
  message : String := ""
  plan : GiftPlan
  deliverAt : Option Date := none
deriving DecidableEq

def GiftForm.record : Record GiftForm :=
  Record.map
    (.cons (.required "fromEmail" .text) <|
      .cons (.required "fromName" .text) <|
      .cons (.required "toEmail" .text) <|
      .cons (.required "toName" .text) <|
      .cons (.defaulted "message" .text "") <|
      .cons (.required "plan" GiftPlan.layout) <|
      .cons (.optional "deliverAt" (.ofTextForm Date)) .nil)
    (fun (fromEmail, fromName, toEmail, toName, message, plan, deliverAt, ()) =>
      { fromEmail, fromName, toEmail, toName, message, plan, deliverAt })
    (fun g => (g.fromEmail, g.fromName, g.toEmail, g.toName, g.message, g.plan, g.deliverAt, ()))

/-! ## Events -/

/-- What an event of the billing provider is about. -/
structure StripeObject where
  id : String
  customer : Option String := none
deriving DecidableEq

def StripeObject.record : Record StripeObject :=
  Record.map (.cons (.required "id" .text) <| .cons (.optional "customer" .text) .nil)
    (fun (id, customer, ()) => { id, customer })
    (fun o => (o.id, o.customer, ()))

/-- The layout of an object under the name `object`. -/
def StripeObject.wrapped : Record StripeObject :=
  Record.map (.cons (.required "object" StripeObject.record.layout) .nil) (fun (object, ()) => object)
    (fun object => (object, ()))

/-- An event of the billing provider. -/
structure StripeEvent where
  id : String
  kind : String
  created : Signed 64
  livemode : Bool := false
  object : StripeObject
deriving DecidableEq

def StripeEvent.record : Record StripeEvent :=
  Record.map
    (.cons (.required "id" .text) <|
      .cons (.required "type" .text) <|
      .cons (.required "created" (.ranged _ _)) <|
      .cons (.defaulted "livemode" .bool false) <|
      .cons (.required "data" StripeObject.wrapped.layout) .nil)
    (fun (id, kind, created, livemode, object, ()) => { id, kind, created, livemode, object })
    (fun e => (e.id, e.kind, e.created, e.livemode, e.object, ()))

/-- An event of email delivery. -/
structure MailgunEvent where
  event : String
  recipient : String
  timestamp : Unsigned 64
  token : String
  signature : String
deriving DecidableEq

def MailgunEvent.record : Record MailgunEvent :=
  Record.map
    (.cons (.required "event" .text) <|
      .cons (.required "recipient" .text) <|
      .cons (.required "timestamp" (.ranged _ _)) <|
      .cons (.required "token" .text) <|
      .cons (.required "signature" .text) .nil)
    (fun (event, recipient, timestamp, token, signature, ()) =>
      { event, recipient, timestamp, token, signature })
    (fun e => (e.event, e.recipient, e.timestamp, e.token, e.signature, ()))

end Signpost.Site

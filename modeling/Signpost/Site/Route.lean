import Signpost.Site.Id
import Signpost.Site.Submission

/-!
# Routes of the site

Every page and action of the site. An area with pages of its own has a type of its own.
-/

namespace Signpost.Site

/-- Pages and actions of one episode. -/
inductive EpisodeRoute where
  | show
  | progress (percent : Unsigned 8)
  | comments (page : Unsigned 32)
deriving DecidableEq

/-- Pages of the blog. The index may be limited to the posts since a date. -/
inductive BlogRoute where
  | index (since : Option Date)
  | feed
  | show (id : BlogPostId)
deriving DecidableEq

/-- Pages of the invoices of an account. -/
inductive InvoicesRoute where
  | index
  | upcoming
  | show (id : InvoiceId)
deriving DecidableEq

/-- Pages and actions of the payment method of an account. -/
inductive PaymentInfoRoute where
  | show (expand : Bool)
  | update (data : PaymentInfo)
deriving DecidableEq

/-- Pages and actions of an account. `rss` is the private feed of a subscriber. -/
inductive AccountRoute where
  | index
  | update (data : Profile)
  | cancel
  | reactivate
  | changeBilling (billing : Billing)
  | invoices (route : InvoicesRoute)
  | paymentInfo (route : PaymentInfoRoute)
  | rss (userId : UserId) (salt : String)
deriving DecidableEq

/-- Pages and actions of gifts. -/
inductive GiftRoute where
  | index
  | plan (plan : GiftPlan)
  | create (data : GiftForm)
  | show (id : GiftId)
  | redeem (id : GiftId)
deriving DecidableEq

/-- Pages and actions of a team. -/
inductive TeamRoute where
  | showInvite (id : TeamInviteId)
  | acceptInvite (id : TeamInviteId)
  | leave
  | removeTeammate (id : UserId)
deriving DecidableEq

/-- Calls of other services. -/
inductive WebhookRoute where
  | stripe (event : StripeEvent)
  | mailgun (event : MailgunEvent)
deriving DecidableEq

/-- Every page and action of the site. -/
inductive Route where
  | home
  | about
  | pricing (billing : Option Billing) (lane : Option Lane)
  | episodes (page : Unsigned 32)
  | episode (id : EpisodeId) (route : EpisodeRoute)
  | search (query : String) (tags : List String)
  | feed
  | blog (route : BlogRoute)
  | account (route : AccountRoute)
  | gifts (route : GiftRoute)
  | team (route : TeamRoute)
  | subscribeConfirmation (lane : Lane) (billing : Option Billing) (coupon : Option String)
  | subscribe (data : Subscription)
  | login (redirect : Option String)
  | logout
  | webhooks (route : WebhookRoute)
deriving DecidableEq

end Signpost.Site

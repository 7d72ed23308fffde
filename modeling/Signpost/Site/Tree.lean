import Signpost.Matcher.Basic
import Signpost.Site.Route

/-!
# The tree of the site

One declaration reads requests of the site and writes its links. Each area is an ordered list of
alternatives; a request belongs to the first that matches, a route to the first whose case it is.

Most alternatives of an area differ in method, length of the path or a literal segment. Plan names and
numbers of gifts share a place, and so do the literal `upcoming` and invoice identifiers; these are kept
apart by the texts that their conversions take. Only a gift can be created in two encodings.
-/

namespace Signpost.Site

open Matcher (start literal method segment query optionalQuery queryOr queryAll form json oneOf)
open Http (Method)

/-- The page of a list that is shown when none is asked for. -/
def firstPage : Unsigned 32 := ⟨1, by decide, by decide⟩

/-! ## Episodes -/

def episodeAlternatives : List (Matcher EpisodeRoute) :=
  [ start
      |>.skip (method .get)
      |>.whole |>.map (.case (fun () => .show) fun | .show => some () | _ => none),
    start
      |>.skip (method .post) |>.skip (literal "progress")
      |>.take (query "percent" (.text (Unsigned 8)))
      |>.whole |>.map (.case (fun ((), percent) => .progress percent) fun
        | .progress percent => some ((), percent)
        | _ => none),
    start
      |>.skip (method .get) |>.skip (literal "comments")
      |>.take (queryOr "page" (.text (Unsigned 32)) firstPage)
      |>.whole |>.map (.case (fun ((), page) => .comments page) fun
        | .comments page => some ((), page)
        | _ => none) ]

/-! ## Blog -/

def blogAlternatives : List (Matcher BlogRoute) :=
  [ start
      |>.skip (method .get)
      |>.take (optionalQuery "since" (.text Date))
      |>.whole |>.map (.case (fun ((), since) => .index since) fun
        | .index since => some ((), since)
        | _ => none),
    start
      |>.skip (method .get) |>.skip (literal "feed") |>.skip (literal "atom.xml")
      |>.whole |>.map (.case (fun () => .feed) fun | .feed => some () | _ => none),
    start
      |>.skip (method .get) |>.skip (literal "posts")
      |>.take (segment (.text BlogPostId))
      |>.whole |>.map (.case (fun ((), id) => .show id) fun | .show id => some ((), id) | _ => none) ]

/-! ## Accounts -/

def invoicesAlternatives : List (Matcher InvoicesRoute) :=
  [ start
      |>.skip (method .get)
      |>.whole |>.map (.case (fun () => .index) fun | .index => some () | _ => none),
    start
      |>.skip (method .get) |>.skip (literal "upcoming")
      |>.whole |>.map (.case (fun () => .upcoming) fun | .upcoming => some () | _ => none),
    start
      |>.skip (method .get)
      |>.take (segment (.text InvoiceId))
      |>.whole |>.map (.case (fun ((), id) => .show id) fun | .show id => some ((), id) | _ => none) ]

def paymentInfoAlternatives : List (Matcher PaymentInfoRoute) :=
  [ start
      |>.skip (method .get)
      |>.take (queryOr "expand" (.text Bool) false)
      |>.whole |>.map (.case (fun ((), expand) => .show expand) fun
        | .show expand => some ((), expand)
        | _ => none),
    start
      |>.skip (method .post)
      |>.take (form PaymentInfo.record.form)
      |>.whole |>.map (.case (fun ((), data) => .update data) fun
        | .update data => some ((), data)
        | _ => none) ]

def accountAlternatives : List (Matcher AccountRoute) :=
  [ start
      |>.skip (method .get)
      |>.whole |>.map (.case (fun () => .index) fun | .index => some () | _ => none),
    start
      |>.skip (method .post)
      |>.take (form Profile.record.form)
      |>.whole |>.map (.case (fun ((), data) => .update data) fun
        | .update data => some ((), data)
        | _ => none),
    start
      |>.skip (method .post) |>.skip (literal "subscription") |>.skip (literal "cancel")
      |>.whole |>.map (.case (fun () => .cancel) fun | .cancel => some () | _ => none),
    start
      |>.skip (method .post) |>.skip (literal "subscription") |>.skip (literal "reactivate")
      |>.whole |>.map (.case (fun () => .reactivate) fun | .reactivate => some () | _ => none),
    start
      |>.skip (method .post) |>.skip (literal "subscription") |>.skip (literal "change")
      |>.take (query "billing" Billing.conversion)
      |>.whole |>.map (.case (fun ((), billing) => .changeBilling billing) fun
        | .changeBilling billing => some ((), billing)
        | _ => none),
    start
      |>.skip (literal "invoices")
      |>.take (oneOf invoicesAlternatives)
      |>.whole |>.map (.case (fun ((), route) => .invoices route) fun
        | .invoices route => some ((), route)
        | _ => none),
    start
      |>.skip (literal "payment-info")
      |>.take (oneOf paymentInfoAlternatives)
      |>.whole |>.map (.case (fun ((), route) => .paymentInfo route) fun
        | .paymentInfo route => some ((), route)
        | _ => none),
    start
      |>.skip (method .get) |>.skip (literal "rss")
      |>.take (segment (.text UserId)) |>.take (segment (.text String))
      |>.whole |>.map (.case (fun (((), userId), salt) => .rss userId salt) fun
        | .rss userId salt => some (((), userId), salt)
        | _ => none) ]

/-! ## Gifts -/

def giftAlternatives : List (Matcher GiftRoute) :=
  [ start
      |>.skip (method .get)
      |>.whole |>.map (.case (fun () => .index) fun | .index => some () | _ => none),
    start
      |>.skip (method .get)
      |>.take (segment GiftPlan.conversion)
      |>.whole |>.map (.case (fun ((), plan) => .plan plan) fun
        | .plan plan => some ((), plan)
        | _ => none),
    start
      |>.skip (method .post)
      |>.take (json GiftForm.record.json)
      |>.whole |>.map (.case (fun ((), data) => .create data) fun
        | .create data => some ((), data)
        | _ => none),
    start
      |>.skip (method .post)
      |>.take (form GiftForm.record.form)
      |>.whole |>.map (.case (fun ((), data) => .create data) fun
        | .create data => some ((), data)
        | _ => none),
    start
      |>.skip (method .get)
      |>.take (segment (.text GiftId))
      |>.whole |>.map (.case (fun ((), id) => .show id) fun | .show id => some ((), id) | _ => none),
    start
      |>.skip (method .post)
      |>.take (segment (.text GiftId))
      |>.whole |>.map (.case (fun ((), id) => .redeem id) fun
        | .redeem id => some ((), id)
        | _ => none) ]

/-! ## Teams -/

def teamAlternatives : List (Matcher TeamRoute) :=
  [ start
      |>.skip (method .get) |>.skip (literal "invites")
      |>.take (segment (.text TeamInviteId))
      |>.whole |>.map (.case (fun ((), id) => .showInvite id) fun
        | .showInvite id => some ((), id)
        | _ => none),
    start
      |>.skip (method .post) |>.skip (literal "invites")
      |>.take (segment (.text TeamInviteId))
      |>.whole |>.map (.case (fun ((), id) => .acceptInvite id) fun
        | .acceptInvite id => some ((), id)
        | _ => none),
    start
      |>.skip (method .post) |>.skip (literal "leave")
      |>.whole |>.map (.case (fun () => .leave) fun | .leave => some () | _ => none),
    start
      |>.skip (method .delete) |>.skip (literal "members")
      |>.take (segment (.text UserId))
      |>.whole |>.map (.case (fun ((), id) => .removeTeammate id) fun
        | .removeTeammate id => some ((), id)
        | _ => none) ]

/-! ## Webhooks -/

def webhookAlternatives : List (Matcher WebhookRoute) :=
  [ start
      |>.skip (method .post) |>.skip (literal "stripe")
      |>.take (json StripeEvent.record.json)
      |>.whole |>.map (.case (fun ((), event) => .stripe event) fun
        | .stripe event => some ((), event)
        | _ => none),
    start
      |>.skip (method .post) |>.skip (literal "mailgun")
      |>.take (form MailgunEvent.record.form)
      |>.whole |>.map (.case (fun ((), event) => .mailgun event) fun
        | .mailgun event => some ((), event)
        | _ => none) ]

/-! ## The site -/

def alternatives : List (Matcher Route) :=
  [ start
      |>.skip (method .get)
      |>.whole |>.map (.case (fun () => .home) fun | .home => some () | _ => none),
    start
      |>.skip (method .get) |>.skip (literal "about")
      |>.whole |>.map (.case (fun () => .about) fun | .about => some () | _ => none),
    start
      |>.skip (method .get) |>.skip (literal "pricing")
      |>.take (optionalQuery "billing" Billing.conversion)
      |>.take (optionalQuery "lane" Lane.conversion)
      |>.whole |>.map (.case (fun (((), billing), lane) => .pricing billing lane) fun
        | .pricing billing lane => some (((), billing), lane)
        | _ => none),
    start
      |>.skip (method .get) |>.skip (literal "episodes")
      |>.take (queryOr "page" (.text (Unsigned 32)) firstPage)
      |>.whole |>.map (.case (fun ((), page) => .episodes page) fun
        | .episodes page => some ((), page)
        | _ => none),
    start
      |>.skip (literal "episodes")
      |>.take (segment (.text EpisodeId)) |>.take (oneOf episodeAlternatives)
      |>.whole |>.map (.case (fun (((), id), route) => .episode id route) fun
        | .episode id route => some (((), id), route)
        | _ => none),
    start
      |>.skip (method .get) |>.skip (literal "search")
      |>.take (query "q" (.text String)) |>.take (queryAll "tag" (.text String))
      |>.whole |>.map (.case (fun (((), text), tags) => .search text tags) fun
        | .search text tags => some (((), text), tags)
        | _ => none),
    start
      |>.skip (method .get) |>.skip (literal "feed") |>.skip (literal "episodes.xml")
      |>.whole |>.map (.case (fun () => .feed) fun | .feed => some () | _ => none),
    start
      |>.skip (literal "blog")
      |>.take (oneOf blogAlternatives)
      |>.whole |>.map (.case (fun ((), route) => .blog route) fun
        | .blog route => some ((), route)
        | _ => none),
    start
      |>.skip (literal "account")
      |>.take (oneOf accountAlternatives)
      |>.whole |>.map (.case (fun ((), route) => .account route) fun
        | .account route => some ((), route)
        | _ => none),
    start
      |>.skip (literal "gifts")
      |>.take (oneOf giftAlternatives)
      |>.whole |>.map (.case (fun ((), route) => .gifts route) fun
        | .gifts route => some ((), route)
        | _ => none),
    start
      |>.skip (literal "team")
      |>.take (oneOf teamAlternatives)
      |>.whole |>.map (.case (fun ((), route) => .team route) fun
        | .team route => some ((), route)
        | _ => none),
    start
      |>.skip (method .get) |>.skip (literal "subscribe")
      |>.take (segment Lane.conversion)
      |>.take (optionalQuery "billing" Billing.conversion)
      |>.take (optionalQuery "coupon" (.text String))
      |>.whole |>.map (.case
        (fun ((((), lane), billing), coupon) => .subscribeConfirmation lane billing coupon) fun
        | .subscribeConfirmation lane billing coupon => some ((((), lane), billing), coupon)
        | _ => none),
    start
      |>.skip (method .post) |>.skip (literal "subscribe")
      |>.take (form Subscription.record.form)
      |>.whole |>.map (.case (fun ((), data) => .subscribe data) fun
        | .subscribe data => some ((), data)
        | _ => none),
    start
      |>.skip (method .get) |>.skip (literal "login")
      |>.take (optionalQuery "redirect" (.text String))
      |>.whole |>.map (.case (fun ((), redirect) => .login redirect) fun
        | .login redirect => some ((), redirect)
        | _ => none),
    start
      |>.skip (method .get) |>.skip (literal "logout")
      |>.whole |>.map (.case (fun () => .logout) fun | .logout => some () | _ => none),
    start
      |>.skip (literal "webhooks")
      |>.take (oneOf webhookAlternatives)
      |>.whole |>.map (.case (fun ((), route) => .webhooks route) fun
        | .webhooks route => some ((), route)
        | _ => none) ]

/-- The matcher of the whole site. -/
def tree : Matcher Route := oneOf alternatives

end Signpost.Site

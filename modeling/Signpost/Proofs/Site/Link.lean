import Signpost.Proofs.Matcher.Address
import Signpost.Proofs.Router.Link
import Signpost.Proofs.Site.Canonical
import Signpost.Proofs.Site.Id

/-!
# Links of the site

The link of a route is a url below the base url. It names the page of the route exactly if the texts in its
path stay segments in a url, which only three of the routes can violate.

* `Route.segments`: the path of each route. `address_tree`: it is what the tree writes.
* `Route.HasOwnSegments`: what the texts of a route have to be. `isOwnSegment_segments_iff`: no other part
  of a path matters.
* `link_names_page_iff`: what is read from the link of a route.
-/

namespace Signpost.Site

/-! ## Paths of routes -/

def EpisodeRoute.segments : EpisodeRoute → List String
  | .show => []
  | .progress _ => ["progress"]
  | .comments _ => ["comments"]

def BlogRoute.segments : BlogRoute → List String
  | .index _ => []
  | .feed => ["feed", "atom.xml"]
  | .show id => ["posts", id.text]

def InvoicesRoute.segments : InvoicesRoute → List String
  | .index => []
  | .upcoming => ["upcoming"]
  | .show id => [id.text]

def AccountRoute.segments : AccountRoute → List String
  | .index => []
  | .update _ => []
  | .cancel => ["subscription", "cancel"]
  | .reactivate => ["subscription", "reactivate"]
  | .changeBilling _ => ["subscription", "change"]
  | .invoices route => "invoices" :: route.segments
  | .paymentInfo _ => ["payment-info"]
  | .rss userId salt => ["rss", userId.text, salt]

def GiftRoute.segments : GiftRoute → List String
  | .index => []
  | .plan p => [p.name]
  | .create _ => []
  | .show id => [id.text]
  | .redeem id => [id.text]

def TeamRoute.segments : TeamRoute → List String
  | .showInvite id => ["invites", id.text]
  | .acceptInvite id => ["invites", id.text]
  | .leave => ["leave"]
  | .removeTeammate id => ["members", id.text]

def WebhookRoute.segments : WebhookRoute → List String
  | .stripe _ => ["stripe"]
  | .mailgun _ => ["mailgun"]

/-- The segments of the path of a route. -/
def Route.segments : Route → List String
  | .home => []
  | .about => ["about"]
  | .pricing _ _ => ["pricing"]
  | .episodes _ => ["episodes"]
  | .episode id route => "episodes" :: id.text :: route.segments
  | .search _ _ => ["search"]
  | .feed => ["feed", "episodes.xml"]
  | .blog route => "blog" :: route.segments
  | .account route => "account" :: route.segments
  | .gifts route => "gifts" :: route.segments
  | .team route => "team" :: route.segments
  | .subscribeConfirmation lane _ _ => ["subscribe", lane.name]
  | .subscribe _ => ["subscribe"]
  | .login _ => ["login"]
  | .logout => ["logout"]
  | .webhooks route => "webhooks" :: route.segments

theorem address_tree (route : Route) : tree.address route = route.segments := by
  cases route with
  | episode id route => cases route <;> rfl
  | blog route => cases route <;> rfl
  | account route =>
    cases route with
    | invoices route => cases route <;> rfl
    | paymentInfo route => cases route <;> rfl
    | _ => rfl
  | gifts route =>
    cases route with
    | plan plan => cases plan <;> rfl
    | _ => rfl
  | team route => cases route <;> rfl
  | webhooks route => cases route <;> rfl
  | subscribeConfirmation lane => cases lane <;> rfl
  | _ => rfl

/-- A route that is written has its path. -/
theorem path_of_tryPrint {r : Router Route} (hroot : r.root = tree) {route : Route} {p : Cursor}
    (hp : r.tryPrint route = .ok p) : p.path = route.segments := by
  have hprint := Router.print_root_of_tryPrint hp
  rw [hroot] at hprint
  have hpath := Matcher.path_print (m := tree) rfl (a := route) (d := .empty) (by rw [hprint])
  rw [hprint] at hpath
  rw [← address_tree]
  exact hpath

/-! ## Texts in paths -/

/-- The texts in the path of the route stay segments in a url. Behind the number of a post, no slug is a dot
segment. -/
def Route.HasOwnSegments : Route → Prop
  | .blog (.show id) => ∀ slug ∈ id.slug, '\\' ∉ slug.toList
  | .account (.invoices (.show id)) => Cursor.IsOwnSegment id.text
  | .account (.rss _ salt) => Cursor.IsOwnSegment salt
  | _ => True

/-- A text with a number in front stays a segment if no backslash follows. -/
theorem isOwnSegment_write_append (n : Unsigned 64) (rest : String) :
    Cursor.IsOwnSegment (TextForm.write n ++ rest) ↔ '\\' ∉ rest.toList := by
  have htext : (TextForm.write n ++ rest).toList = Decimal.digits n.val.natAbs ++ rest.toList := by
    rw [String.toList_append, toList_write]
  have hno {c : Char} (hc : c.isDigit = false) : c ∉ Decimal.digits n.val.natAbs := by
    intro hmem
    rw [Decimal.isDigit_of_mem_digits hmem] at hc
    cases hc
  obtain ⟨c, cs, hdigits⟩ := List.exists_cons_of_ne_nil (Decimal.digits_ne_nil n.val.natAbs)
  have hne (text : String) (hdot : text.toList.head? = some '.') : TextForm.write n ++ rest ≠ text := by
    rintro rfl
    rw [htext, hdigits] at hdot
    exact hno (c := '.') (by decide) (hdigits ▸ Option.some.inj hdot ▸ List.mem_cons_self)
  unfold Cursor.IsOwnSegment
  rw [htext, List.mem_append]
  exact ⟨fun h hmem => h.2.2 (.inr hmem),
    fun h => ⟨hne "." rfl, hne ".." rfl, fun hmem => hmem.elim (hno (by decide)) h⟩⟩

theorem isOwnSegment_id {kind : Kind} (id : Id kind) : Cursor.IsOwnSegment id.text := by
  have h := (isOwnSegment_write_append id.number "").2 (by simp)
  rwa [String.append_empty] at h

theorem isOwnSegment_post_iff (id : BlogPostId) :
    Cursor.IsOwnSegment id.text ↔ ∀ slug ∈ id.slug, '\\' ∉ slug.toList := by
  obtain ⟨n, _ | slug⟩ := id
  · have h := (isOwnSegment_write_append n "").2 (by simp)
    rw [String.append_empty] at h
    exact iff_of_true h nofun
  · show Cursor.IsOwnSegment (TextForm.write n ++ "-" ++ slug) ↔ _
    rw [String.append_assoc, isOwnSegment_write_append]
    simp

/-- Only the texts of a route decide whether the segments of its path stay segments. -/
theorem isOwnSegment_segments_iff (route : Route) :
    (∀ segment ∈ route.segments, Cursor.IsOwnSegment segment) ↔ route.HasOwnSegments := by
  cases route with
  | episode id route =>
    cases route <;>
      simp +decide [Route.segments, EpisodeRoute.segments, Route.HasOwnSegments, isOwnSegment_id]
  | blog route =>
    cases route <;>
      simp +decide [Route.segments, BlogRoute.segments, Route.HasOwnSegments, isOwnSegment_post_iff]
  | account route =>
    cases route with
    | invoices route =>
      cases route <;> simp +decide [Route.segments, AccountRoute.segments, InvoicesRoute.segments,
        Route.HasOwnSegments]
    | _ => simp +decide [Route.segments, AccountRoute.segments, Route.HasOwnSegments, isOwnSegment_id]
  | gifts route =>
    cases route with
    | plan p => cases p <;> simp +decide [Route.HasOwnSegments]
    | _ => simp +decide [Route.segments, GiftRoute.segments, Route.HasOwnSegments, isOwnSegment_id]
  | team route =>
    cases route <;>
      simp +decide [Route.segments, TeamRoute.segments, Route.HasOwnSegments, isOwnSegment_id]
  | webhooks route =>
    cases route <;> simp +decide [Route.segments, WebhookRoute.segments, Route.HasOwnSegments]
  | subscribeConfirmation lane =>
    cases lane <;> simp +decide [Route.segments, Route.HasOwnSegments, Lane.name]
  | _ => simp +decide [Route.segments, Route.HasOwnSegments]

/-! ## Links -/

/-- However the names of hosts are read, a route that is written has a link, which is read as a url with the
scheme, host and port of the base url and the query of the route. Its path is the base path with the path of
the route behind it exactly if the texts in that path stay segments in a url. -/
theorem link_names_page_iff {names : Url.NameReading} (hnames : names.Lawful) {base : String}
    {r : Router Route} (hr : router base names = .ok r) {route : Route} {p : Cursor}
    (hp : r.tryPrint route = .ok p) :
    BaseUrl.parse base names = .ok r.base ∧ ∃ target link u, r.path route = .ok target ∧
      r.link route = .ok link ∧ BaseUrl.parse link names = .ok u ∧
      u.scheme = r.base.scheme ∧ u.authority.host = r.base.authority.host ∧
      u.authority.port = r.base.authority.port ∧ u.query = Cursor.queryPart target ∧
      (u.path = r.base.basePath ++ Cursor.pathPart target ↔ route.HasOwnSegments) := by
  have hparse := parse_of_router hr
  obtain ⟨target, link, u, htarget, hlink, hu, hscheme, hhost, hport, hquery, hpath⟩ :=
    Router.parse_link (BaseUrl.isNormal_of_parse hnames hparse) hp
  rw [path_of_tryPrint (root_eq_tree hr) hp, isOwnSegment_segments_iff] at hpath
  exact ⟨hparse, target, link, u, htarget, hlink, hu, hscheme, hhost, hport, hquery, hpath⟩

/-- The reading of names in ASCII, and of one that is not, which has this ASCII form. -/
def booksName? : Url.NameReading := fun cs =>
  if cs = "Bücher.Example".toList ∨ cs = "xn--bcher-kva.example".toList then
    some "xn--bcher-kva.example".toList
  else Url.asciiName? cs

theorem lawful_booksName? : booksName?.Lawful where
  stable := by
    intro cs name h
    unfold booksName? at h
    split at h
    · cases h
      exact if_pos (.inr rfl)
    · have hself := Url.lawful_asciiName?.stable h
      have hascii := (Url.of_asciiName? h).2.2.1
      unfold booksName?
      split
      · rename_i hbooks
        rcases hbooks with rfl | rfl
        · exact absurd hascii (by decide)
        · rfl
      · exact hself
  allowed := by
    intro cs name h
    unfold booksName? at h
    split at h
    · cases h
      have hall : ("xn--bcher-kva.example".toList.any Url.isForbiddenInName) = false := by decide
      exact fun c hc => by simpa using List.any_eq_false.1 hall c hc
    · exact Url.lawful_asciiName?.allowed h
  digits := by
    intro cs h
    unfold booksName?
    rw [if_neg]
    · exact Url.lawful_asciiName?.digits h
    · rintro (rfl | rfl)
      · exact absurd (h 'B' (by decide)) (by decide)
      · exact absurd (h 'x' (by decide)) (by decide)

/-- A base url with a user, a port, slashes behind its path, a query and a fragment. -/
def shop : BaseUrl where
  secure := false
  authority := { username := "tea", password := "pot", host := "xn--bcher-kva.example", port := some 8080 }
  path := "/leaves//"
  query := some "a"
  fragment := some "b"

/-- A user with the number of `post`. -/
def subscriber : UserId := ⟨post.number⟩

/-- A feed whose salt has to be escaped. -/
def markedFeed : Route := .account (.rss subscriber "a/é?%2e")

theorem link_names_page_markedFeed : booksName?.Lawful ∧
    router "HTTP://tea:pot@Bücher.Example:8080/leaves//?a#b" booksName? = .ok ⟨tree, shop⟩ ∧
      ∃ link u, (Router.mk tree shop).link markedFeed = .ok link ∧ BaseUrl.parse link booksName? = .ok u ∧
        u.authority.host = "xn--bcher-kva.example" ∧ u.authority.port = some 8080 ∧ u.query = none ∧
        u.path = "/leaves/account/rss/7/a%2F%C3%A9%3F%252e" := by
  have hparse : BaseUrl.parse "HTTP://tea:pot@Bücher.Example:8080/leaves//?a#b" booksName? = .ok shop := by
    decide
  have hrouter : router "HTTP://tea:pot@Bücher.Example:8080/leaves//?a#b" booksName? =
      .ok ⟨tree, shop⟩ := by
    rw [router, Router.build, hparse]
  have hpath : (Router.mk tree shop).path markedFeed = .ok "/account/rss/7/a%2F%C3%A9%3F%252e" := rfl
  have hown : markedFeed.HasOwnSegments := by
    show Cursor.IsOwnSegment "a/é?%2e"
    decide
  obtain ⟨-, target, link, u, htarget, hlink, hu, -, hhost, hport, hquery, hsame⟩ :=
    link_names_page_iff lawful_booksName? hrouter
      (show (Router.mk tree shop).tryPrint markedFeed = .ok _ from rfl)
  obtain rfl : _ = target := Except.ok.inj (hpath.symm.trans htarget)
  refine ⟨lawful_booksName?, hrouter, link, u, hlink, hu, hhost, hport, hquery.trans ?_,
    (hsame.2 hown).trans ?_⟩
  · decide
  · decide

/-- A base url with nothing but a host. -/
def hostOnly : BaseUrl where
  secure := true
  authority := { host := "www.example.com" }
  path := "/"

/-- A feed whose salt holds a backslash, which is written as it is. -/
def backslashFeed : Route := .account (.rss subscriber "a\\b")

/-- The link of the feed has another path than the feed, of one more segment. -/
theorem link_backslashFeed : router "https://www.example.com" = .ok ⟨tree, hostOnly⟩ ∧
    (Router.mk tree hostOnly).path backslashFeed = .ok "/account/rss/7/a\\b" ∧
      (Router.mk tree hostOnly).link backslashFeed = .ok "https://www.example.com/account/rss/7/a\\b" ∧
        ∃ u, BaseUrl.parse "https://www.example.com/account/rss/7/a\\b" = .ok u ∧
          u.path = "/account/rss/7/a/b" ∧
            u.path ≠ hostOnly.basePath ++ Cursor.pathPart "/account/rss/7/a\\b" := by
  have hbase : BaseUrl.parse "https://www.example.com" = .ok hostOnly := by decide +kernel
  refine ⟨?_, rfl, rfl, { hostOnly with path := "/account/rss/7/a/b" }, ?_, rfl, ?_⟩
  · rw [router, Router.build, hbase]
  · decide +kernel
  · decide

end Signpost.Site

import Signpost.Proofs.Router.Canonical
import Signpost.Proofs.Site.Tree
import Signpost.Site.Router

/-!
# Addresses of the site are canonical

Every request that the site resolves has the path under which its route is written.

* `resolve_canonical`: what is known of a route that was resolved from a request.
-/

namespace Signpost.Site

/-- At every base url, the root of the router is the tree. -/
theorem root_eq_tree {base : String} {names : Url.NameReading} {r : Router Route}
    (h : router base names = .ok r) : r.root = tree := by
  unfold router Router.build at h
  split at h
  · cases h
    rfl
  · cases h

theorem parse_of_router {base : String} {names : Url.NameReading} {r : Router Route}
    (h : router base names = .ok r) : BaseUrl.parse base names = .ok r.base := by
  unfold router Router.build at h
  split at h
  · rename_i u hu
    cases h
    exact hu
  · cases h

/-- The site has a router at its default base url. -/
theorem exists_router : ∃ r, router Router.defaultBase = .ok r ∧ r.root = tree := by
  have hok : (router Router.defaultBase).isOk = true := by decide +kernel
  rcases hr : router Router.defaultBase with e | r
  · rw [hr] at hok
    cases hok
  · exact ⟨r, rfl, root_eq_tree hr⟩

/-- A route of the site is spelled along a sound chain that names its method. -/
theorem method?_of_spells {route : Route} {f : Cursor} {chain : List Feature}
    (h : tree.Spells route f chain) : IsSound chain ∧ f.method?.isSome := by
  have hmem := h.mem_chains
  obtain ⟨m, hm⟩ := exists_method_of_mem_chains hmem
  exact ⟨isSound_of_mem_chains chain hmem, h.fits.method_isSome m hm⟩

/-- The route of a received request is written with the method and the path of the request and with the
first values of its query keys, and passes its audit unless the target is too long. Requests for the same
route have the same path. -/
theorem resolve_canonical {r : Router Route} (hroot : r.root = tree) {d : Cursor}
    (hd : d.IsReceived) {route : Route} (h : r.resolve d = .ok route) :
    (∃ p, r.tryPrint route = .ok p ∧ p.method = d.method ∧ p.path = d.path ∧
      (∀ key values, p.query.find? key = some values →
        ∃ more, d.query.find? key = some (values ++ more)) ∧
      (p.pathString.utf8ByteSize ≤ Http.Uri.maxBytes → r.audit route = .ok ()) ∧
      r.print route = .ok p ∧ r.path route = .ok p.pathString ∧
      r.link route = .ok (r.base.linkBase ++ p.pathString)) ∧
    ∀ other : Cursor, other.IsReceived → r.resolve other = .ok route → other.path = d.path := by
  have horderly : r.root.IsOrderly := hroot ▸ isOrderly_tree
  obtain ⟨f, chain, hspells, hpath, hmethod, hvalues⟩ :=
    Router.spells_of_resolve horderly hd.isIncoming h
  have hprint := Router.tryPrint_of_spells hspells
  obtain ⟨hsound, hsome⟩ := method?_of_spells (hroot ▸ hspells)
  refine ⟨⟨f, hprint, ?_, hpath, hvalues, Router.audit_of_isOrderly horderly hspells hsound,
    Router.print_of_tryPrint hprint⟩, ?_⟩
  · obtain ⟨m, hm⟩ := Option.isSome_iff_exists.1 hsome
    rw [hmethod m hm, Cursor.method, hm, Option.getD_some]
  · intro other hother hresolve
    obtain ⟨g, chain', hspells', hpath', -⟩ :=
      Router.spells_of_resolve horderly hother.isIncoming hresolve
    have hprint' := Router.tryPrint_of_spells hspells'
    rw [hprint] at hprint'
    cases hprint'
    rw [← hpath', hpath]

/-- A request for a post of the blog with a field that the site does not read. -/
def postRequest : Cursor :=
  { method? := some .get, path := ["blog", "posts", "7-on-tea"], query := ⟨[("ref", ["home"])]⟩ }

def post : BlogPostId := { number := ⟨7, by decide, by decide⟩, slug := some "on-tea" }

theorem isReceived_postRequest : postRequest.IsReceived := by
  have hread : Cursor.ofUri .get "/blog//posts/7-on-tea/?ref=home" = .ok postRequest := by decide
  exact ⟨⟨none, none, .inl ⟨_, _, hread⟩⟩, nofun⟩

/-- The law applies to a request with an empty segment, a slash at the end and a field that is not read. -/
theorem resolve_canonical_postRequest :
    postRequest.IsReceived ∧ ∃ r, router Router.defaultBase = .ok r ∧
      r.resolve postRequest = .ok (.blog (.show post)) ∧
      ∃ p, r.tryPrint (.blog (.show post)) = .ok p ∧ p.path = postRequest.path ∧
        r.audit (.blog (.show post)) = .ok () := by
  obtain ⟨r, hr, hroot⟩ := exists_router
  have hresolve : r.resolve postRequest = .ok (.blog (.show post)) := by
    have htree : (Router.mk tree r.base).resolve postRequest = .ok (.blog (.show post)) := by
      rfl
    rw [← hroot] at htree
    exact htree
  obtain ⟨p, hp, -, hpath, -, haudit, -⟩ :=
    (resolve_canonical hroot isReceived_postRequest hresolve).1
  refine ⟨isReceived_postRequest, r, hr, hresolve, p, hp, hpath, haudit ?_⟩
  have htree : (Router.mk tree r.base).tryPrint (.blog (.show post)) = .ok p := by
    rw [← hroot]
    exact hp
  cases htree
  decide

end Signpost.Site

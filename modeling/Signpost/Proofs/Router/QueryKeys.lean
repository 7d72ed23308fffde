import Signpost.Proofs.Cursor.Reachable
import Signpost.Proofs.Matcher.Alike
import Signpost.Proofs.Query.Merge
import Signpost.Proofs.Router.RouteTree

/-!
# Query keys that count

What a request is resolved to depends only on the query keys that occur in the root matcher.

* `Matcher.queryKeys`: the query keys that occur in a matcher.
* `Cursor.AgreesOn`: cursors that differ at most in the values of other keys.
* `Router.resolve_of_alike`: requests that the root reads alike are resolved alike.
* `Router.resolve_of_agreesOn`: cursors that agree on the keys of the root are resolved to the same route,
  or fail for the same reason.
* `Router.resolve_depends_on_queryKeys`: so do requests to which fields with other keys are added, from
  which such fields are removed, or whose fields stand in another order.
-/

namespace Signpost

/-- The query keys that occur in a matcher. -/
def Matcher.queryKeys : {α : Type} → Matcher α → List String
  | _, .skip first next => first.queryKeys ++ next.queryKeys
  | _, .take first next => first.queryKeys ++ next.queryKeys
  | _, .whole inner => inner.queryKeys
  | _, .map inner _ => inner.queryKeys
  | _, .choice _ alternative => (List.ofFn fun i => (alternative i).queryKeys).flatten
  | _, m => m.field?.toList

/-! ## Cursors that agree on some keys -/

/-- The cursors differ at most in the values of other keys. -/
structure Cursor.AgreesOn (keys : List String) (d e : Cursor) : Prop where
  method : d.method = e.method
  path : d.path = e.path
  find? : ∀ key ∈ keys, d.query.find? key = e.query.find? key
  body : d.body = e.body
  contentType : d.contentType = e.contentType
  malformed : d.malformed = e.malformed

/-- Cursors that agree on some keys, with the well-formed queries that keep them in agreement when a key
is removed. -/
def Cursor.MatchesOn (keys : List String) (d e : Cursor) : Prop :=
  d.AgreesOn keys e ∧ d.query.WellFormed ∧ e.query.WellFormed

/-- A key is removed from both cursors or from none: afterwards they agree on the same keys. -/
theorem Cursor.MatchesOn.erase {keys : List String} {d e : Cursor} (h : d.MatchesOn keys e) (key : String) :
    MatchesOn keys { d with query := d.query.erase key } { e with query := e.query.erase key } := by
  obtain ⟨hagrees, hd, he⟩ := h
  refine ⟨{ hagrees with find? := fun other hother => ?_ }, hd.erase key, he.erase key⟩
  rw [Query.find?_erase hd, Query.find?_erase he, hagrees.find? other hother]

/-! ## Matchers of some keys -/

namespace Matcher

variable {α : Type} {keys : List String}

/-- The key of the matcher, if it reads one, is among the keys. -/
def HasFieldIn (keys : List String) {α : Type} (m : Matcher α) : Prop := ∀ key ∈ m.field?, key ∈ keys

/-- The fields of a matcher have keys that occur in it. -/
theorem throughout_of_queryKeys {m : Matcher α} (hm : ∀ key ∈ m.queryKeys, key ∈ keys) :
    m.Throughout (HasFieldIn keys) := by
  induction m with
  | skip first next ihf ihn | take first next ihf ihn =>
    exact ⟨ihf fun key h => hm key (List.mem_append_left _ h),
      ihn fun key h => hm key (List.mem_append_right _ h)⟩
  | whole inner ih | map inner c ih => exact ih hm
  | choice count alternative ih =>
    intro i
    refine ih i fun key h => hm key ?_
    exact List.mem_flatten.2 ⟨_, (List.mem_ofFn' _ _).2 ⟨i, rfl⟩, h⟩
  | _ => exact fun key h => hm key (Option.mem_toList.2 h)

/-- Cursors that match on some keys are read alike by matchers of these keys, and with the same errors. -/
theorem isResemblance_matchesOn (keys : List String) :
    IsResemblance (fun m _ => m.HasFieldIn keys) Eq (Cursor.MatchesOn keys) where
  refl _ := rfl
  path h := h.1.path
  method h := h.1.method
  withPath h _ := ⟨{ h.1 with path := rfl }, h.2⟩
  field hm _ _ hin h := alike_of_field (fun _ => rfl) hm (h.1.find? _ (hin _ hm)) h (h.erase _)
  body hm _ _ _ h :=
    alike_of_body (fun _ => rfl) hm h.1.body h.1.contentType ⟨{ h.1 with body := rfl }, h.2⟩

end Matcher

/-! ## Requests that agree on the keys of the root -/

namespace Router

variable {α : Type} (r : Router α) {d e : Cursor}

/-- Requests that the root reads alike, with the same errors and equal rests, are resolved to the same route,
or fail for the same reason. -/
theorem resolve_of_alike {R : Cursor → Cursor → Prop} (hmalformed : d.malformed = e.malformed)
    (hrest : ∀ {d e : Cursor}, R d e → d.path = e.path ∧ d.body = e.body)
    (halike : Matcher.Alike Eq R (r.root.parse d) (r.root.parse e)) : r.resolve d = r.resolve e := by
  unfold resolve
  rw [hmalformed]
  cases e.malformed with
  | some cause => rfl
  | none =>
    generalize r.root.parse d = o, r.root.parse e = o' at halike ⊢
    cases halike with
    | error hxy => rw [hxy]
    | @ok a d' e' h =>
      obtain ⟨hpath, hbody⟩ := hrest h
      have hpathConsumed : d'.isPathConsumed = e'.isPathConsumed := congrArg List.isEmpty hpath
      have hbodyConsumed : d'.isBodyConsumed = e'.isBodyConsumed := by
        rw [Cursor.isBodyConsumed, hbody]
        rfl
      dsimp only
      rw [hpathConsumed, hbodyConsumed, hpath]

/-- Requests that agree on the query keys of the root are resolved to the same route, or fail for the
same reason. -/
theorem resolve_of_agreesOn (h : d.MatchesOn r.root.queryKeys e) : r.resolve d = r.resolve e :=
  r.resolve_of_alike h.1.malformed (fun h => ⟨h.1.path, h.1.body⟩)
    (Matcher.parse_alike (Matcher.isResemblance_matchesOn r.root.queryKeys)
      (Matcher.along_of_throughout (fun hm _ => hm) (Matcher.throughout_of_queryKeys fun _ => id) d) h)

/-- A match depends only on the query keys that occur in the root. Fields with other keys may be added or
removed, and the groups of the query may stand in any order, with any groups of other keys among them. -/
theorem resolve_depends_on_queryKeys :
    (∀ d e : Cursor, d.IsReachable → e.IsReachable → d.AgreesOn r.root.queryKeys e →
      r.resolve d = r.resolve e) ∧
    (∀ d : Cursor, d.IsReachable → ∀ key ∉ r.root.queryKeys,
      (∀ value, r.resolve (d.pushQuery key value) = r.resolve d) ∧
        r.resolve (d.popQuery key).2 = r.resolve d) ∧
    ∀ (d : Cursor) (q : Query), d.IsReachable → Cursor.IsReachable { d with query := q } →
      (q.groups.filter (·.1 ∈ r.root.queryKeys)).Perm (d.query.groups.filter (·.1 ∈ r.root.queryKeys)) →
      r.resolve { d with query := q } = r.resolve d := by
  have hagree (d e : Cursor) (hd : d.IsReachable) (he : e.IsReachable)
      (h : d.AgreesOn r.root.queryKeys e) : r.resolve d = r.resolve e :=
    r.resolve_of_agreesOn ⟨h, hd.wellFormed, he.wellFormed⟩
  have hquery (d : Cursor) (q : Query) (hd : d.IsReachable) (he : Cursor.IsReachable { d with query := q })
      (h : ∀ key ∈ r.root.queryKeys, q.find? key = d.query.find? key) :
      r.resolve { d with query := q } = r.resolve d :=
    hagree _ _ he hd ⟨rfl, rfl, h, rfl, rfl, rfl⟩
  refine ⟨hagree, fun d hd key hkey => ⟨fun value => ?_, ?_⟩, fun d q hd he hperm => ?_⟩
  · refine hquery d _ hd (hd.pushQuery key value) fun other hother => ?_
    rw [Query.find?_push, if_neg (ne_of_mem_of_not_mem hother hkey)]
  · refine hquery d _ hd (hd.popQuery key) fun other hother => ?_
    rw [Query.find?_erase hd.wellFormed, if_neg (ne_of_mem_of_not_mem hother hkey)]
  · exact hquery d q hd he fun key hkey => Query.find?_eq_of_perm he.wellFormed hd.wellFormed hperm hkey

/-- A router of `sampleTree`. -/
def sampleRouter : Router (Option (String × Option String)) :=
  ⟨sampleTree, { secure := true, authority := { host := "tea.example" }, path := "/" }⟩

/-- The fields of a campaign around the page of a post. -/
def campaignQuery : Query := ((Query.empty.push "source" "letter").push "page" "2").push "source" "mail"

/-- A post is found behind the fields of a campaign as it is without them. -/
theorem resolve_campaignPost : sampleRouter.root.queryKeys = ["page"] ∧ samplePost.IsReachable ∧
    Cursor.IsReachable { samplePost with query := campaignQuery } ∧
    sampleRouter.resolve (samplePost.pushQuery "source" "mail") = .ok (some ("tea", some "2")) ∧
    sampleRouter.resolve { samplePost with query := campaignQuery } = .ok (some ("tea", some "2")) := by
  have hpath : Cursor.IsReachable { method? := some .get, path := ["posts", "tea"] } :=
    ((Cursor.IsReachable.empty.setMethod .get).pushSegment "posts").pushSegment "tea"
  have hpost : samplePost.IsReachable := hpath.pushQuery "page" "2"
  have hcampaign : Cursor.IsReachable { samplePost with query := campaignQuery } :=
    ((hpath.pushQuery "source" "letter").pushQuery "page" "2").pushQuery "source" "mail"
  have hfound : sampleRouter.resolve samplePost = .ok (some ("tea", some "2")) := by decide
  obtain ⟨-, hfields, horder⟩ := resolve_depends_on_queryKeys sampleRouter
  refine ⟨by decide, hpost, hcampaign, ?_, ?_⟩
  · rw [(hfields samplePost hpost "source" (by decide)).1, hfound]
  · rw [horder samplePost campaignQuery hpost hcampaign (by decide), hfound]

end Router

end Signpost

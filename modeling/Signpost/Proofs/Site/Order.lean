import Signpost.Proofs.Matcher.Order
import Signpost.Proofs.Site.Tree

/-!
# Declaration order in the tree of the site

No request is read by two alternatives of the site, so their order decides nothing. The one exception is a
new gift that does not say how it is encoded: its body may be a JSON document and a form at once.

* `reads_gifts`: two alternatives of the gifts that read the same request are the two encodings.
* `isUnambiguous_tree`: the tree of the site is unambiguous, area by area.
* `twofoldGift`: a new gift for which the order of the encodings counts.
* `order_decides_nothing`: every alternation of the site, in every order.
-/

namespace Signpost.Site

open Matcher

/-! ## The encodings of a body -/

/-- The media type of a body that was read, where one is declared. -/
theorem essence_of_parseBody {α : Type} {mediaType : Http.MediaType} {missing : Except MatchError Bytes}
    {codec : BodyCodec α} {d e : Cursor} {a : α} (h : parseBody mediaType missing codec d = (.ok a, e))
    {declared : Http.MediaType} (hd : d.contentType = some declared) :
    declared.essence = mediaType.essence := by
  rw [parseBody, checkContentType, hd] at h
  by_contra hne
  simp only [if_neg hne] at h
  cases h

/-- No body is read in both encodings when one is declared. -/
theorem contentType_eq_none_of_reads {α β : Type} {c : BodyCodec α} {c' : BodyCodec β} {d : Cursor}
    (hjson : (json c).Reads d) (hform : (form c').Reads d) : d.contentType = none := by
  obtain ⟨a, ha⟩ := hjson
  obtain ⟨b, hb⟩ := hform
  by_contra hne
  obtain ⟨declared, hd⟩ := Option.ne_none_iff_exists'.1 hne
  have hj : declared.essence = Http.MediaType.json.essence := essence_of_parseBody (Prod.ext ha rfl) hd
  have hf : declared.essence = Http.MediaType.form.essence := essence_of_parseBody (Prod.ext hb rfl) hd
  exact absurd (hj.symm.trans hf) (by decide)

/-- An alternative with nothing but a method and one value reads with the matcher of the value. -/
theorem reads_of_submission {α β : Type} {m : Http.Method} {inner : Matcher α}
    {c : Conversion (Unit × α) β} {d : Cursor}
    (h : ((start.skip (method m)).take inner |>.whole |>.map c).Reads d) : inner.Reads d := by
  obtain ⟨b, hb⟩ := h
  obtain ⟨⟨u, a⟩, hmap, -⟩ := ok_of_parse_map (Prod.ext hb rfl)
  obtain ⟨htake, -⟩ := ok_of_parse_whole hmap
  obtain ⟨d', hskip, ha⟩ := ok_of_parse_take htake
  obtain ⟨d'', hstart, hmethod⟩ := ok_of_parse_skip hskip
  obtain ⟨-, rfl⟩ := ok_of_parse_method hmethod
  cases hstart
  exact ⟨a, congrArg Prod.fst ha⟩

/-! ## Areas -/

/-- Two alternatives of the gifts that read the same request read a new gift of no declared encoding. -/
theorem reads_gifts {d : Cursor} {i j : Fin giftAlternatives.length} (hlt : i < j)
    (hi : (giftAlternatives.get i).Reads d) (hj : (giftAlternatives.get j).Reads d) :
    i.val = 2 ∧ j.val = 3 ∧ d.contentType = none := by
  by_cases h : i.val = 2 ∧ j.val = 3
  · refine ⟨h.1, h.2, ?_⟩
    obtain ⟨⟨i, _⟩, ⟨j, _⟩⟩ := i, j
    obtain ⟨rfl, rfl⟩ := h
    exact contentType_eq_none_of_reads (reads_of_submission hi) (reads_of_submission hj)
  · exact absurd ⟨hi, hj⟩ ((apart_gifts hlt h).not_reads d)

theorem isUnambiguous_episode : (oneOf episodeAlternatives).IsUnambiguous :=
  isUnambiguous_of_conflicts (by simp [episodeAlternatives]) conflicts_episode

theorem isUnambiguous_blog : (oneOf blogAlternatives).IsUnambiguous :=
  isUnambiguous_of_conflicts (by simp [blogAlternatives]) conflicts_blog

theorem isUnambiguous_invoices : (oneOf invoicesAlternatives).IsUnambiguous :=
  isUnambiguous_of_conflicts (by simp [invoicesAlternatives]) conflicts_invoices

theorem isUnambiguous_paymentInfo : (oneOf paymentInfoAlternatives).IsUnambiguous :=
  isUnambiguous_of_conflicts (by simp [paymentInfoAlternatives]) conflicts_paymentInfo

theorem isUnambiguous_account : (oneOf accountAlternatives).IsUnambiguous :=
  isUnambiguous_of_conflicts
    (by simp [accountAlternatives, isUnambiguous_invoices, isUnambiguous_paymentInfo])
    conflicts_account

theorem isUnambiguous_gifts : (oneOf giftAlternatives).IsUnambiguous := by
  refine isUnambiguous_oneOf (by simp [giftAlternatives]) fun d hd => ?_
  refine List.pairwise_iff_get.2 fun i j hlt => ?_
  rintro ⟨hi, hj⟩
  exact hd (reads_gifts hlt hi hj).2.2

theorem isUnambiguous_team : (oneOf teamAlternatives).IsUnambiguous :=
  isUnambiguous_of_conflicts (by simp [teamAlternatives]) conflicts_team

theorem isUnambiguous_webhook : (oneOf webhookAlternatives).IsUnambiguous :=
  isUnambiguous_of_conflicts (by simp [webhookAlternatives]) conflicts_webhook

/-- Of each alternation of the site, at most one alternative reads a request that declares a media type. -/
theorem isUnambiguous_tree : tree.IsUnambiguous :=
  isUnambiguous_of_conflicts
    (by simp [alternatives, isUnambiguous_episode, isUnambiguous_blog,
      isUnambiguous_account, isUnambiguous_gifts, isUnambiguous_team, isUnambiguous_webhook])
    conflicts_site

/-! ## The site -/

/-- The alternations of the site, each with the type of its routes. -/
def areas : List (Σ α : Type, List (Matcher α)) :=
  [⟨Route, alternatives⟩, ⟨EpisodeRoute, episodeAlternatives⟩, ⟨BlogRoute, blogAlternatives⟩,
    ⟨AccountRoute, accountAlternatives⟩, ⟨InvoicesRoute, invoicesAlternatives⟩,
    ⟨PaymentInfoRoute, paymentInfoAlternatives⟩, ⟨GiftRoute, giftAlternatives⟩,
    ⟨TeamRoute, teamAlternatives⟩, ⟨WebhookRoute, webhookAlternatives⟩]

/-- Everywhere but among the gifts, no two alternatives have a request in common. -/
theorem conflicts_of_mem_areas {area : Σ α : Type, List (Matcher α)} (h : area ∈ areas) :
    area = ⟨GiftRoute, giftAlternatives⟩ ∨ area.2.Pairwise fun m n => m.conflicts n = true := by
  simp only [areas, List.mem_cons, List.not_mem_nil, or_false] at h
  rcases h with rfl | rfl | rfl | rfl | rfl | rfl | rfl | rfl | rfl
  · exact .inr conflicts_site
  · exact .inr conflicts_episode
  · exact .inr conflicts_blog
  · exact .inr conflicts_account
  · exact .inr conflicts_invoices
  · exact .inr conflicts_paymentInfo
  · exact .inl rfl
  · exact .inr conflicts_team
  · exact .inr conflicts_webhook

theorem isUnambiguous_of_mem_areas {area : Σ α : Type, List (Matcher α)} (h : area ∈ areas) :
    (oneOf area.2).IsUnambiguous := by
  simp only [areas, List.mem_cons, List.not_mem_nil, or_false] at h
  rcases h with rfl | rfl | rfl | rfl | rfl | rfl | rfl | rfl | rfl
  · exact isUnambiguous_tree
  · exact isUnambiguous_episode
  · exact isUnambiguous_blog
  · exact isUnambiguous_account
  · exact isUnambiguous_invoices
  · exact isUnambiguous_paymentInfo
  · exact isUnambiguous_gifts
  · exact isUnambiguous_team
  · exact isUnambiguous_webhook

/-- A new gift whose body is a JSON document with a form inside of a text. -/
def twofoldGift : Cursor where
  method? := some .post
  body := some (Utf8.encode ("\x7b\"plan\":\"year\",\"fromName\":\"\",\"toEmail\":\"\",\"toName\":\"\"," ++
    "\"fromEmail\":\"&fromEmail=a&fromName=b&toEmail=c&toName=d&plan=year&x=\"\x7d").toList)

/-- Both encodings read it. -/
theorem reads_twofoldGift : (giftAlternatives.get ⟨2, by decide⟩).Reads twofoldGift ∧
    (giftAlternatives.get ⟨3, by decide⟩).Reads twofoldGift := by
  decide +kernel

/-- No two alternatives of one alternation of the site read the same request, except for the two encodings
of a new gift, and for these there must be no declared media type. Any other order of the alternatives, in
one alternation or in several, reads a request that declares a media type with the same result and leaves
the same of it. -/
theorem order_decides_nothing :
    (∀ area ∈ areas, ∀ (d : Cursor) (i j : Fin area.2.length), i < j →
      (area.2.get i).Reads d → (area.2.get j).Reads d →
      area = ⟨GiftRoute, giftAlternatives⟩ ∧ i.val = 2 ∧ j.val = 3 ∧ d.contentType = none) ∧
    (∃ d : Cursor, (giftAlternatives.get ⟨2, by decide⟩).Reads d ∧
      (giftAlternatives.get ⟨3, by decide⟩).Reads d) ∧
    ∀ area ∈ areas, ∀ m, (oneOf area.2).Reorders m → ∀ d : Cursor, d.contentType ≠ none →
      m.parse d = (oneOf area.2).parse d := by
  refine ⟨fun area harea d i j hlt hi hj => ?_, ⟨twofoldGift, reads_twofoldGift⟩,
    fun area harea m hm d hd => parse_of_reorders hm (isUnambiguous_of_mem_areas harea) hd⟩
  rcases conflicts_of_mem_areas harea with rfl | hconflicts
  · exact ⟨rfl, reads_gifts hlt hi hj⟩
  · have hpairs := List.pairwise_iff_get.1 (pairwise_not_reads hconflicts d)
    exact absurd ⟨hi, hj⟩ (hpairs i j hlt)

/-- A new gift in JSON that says so. -/
def declaredGift : Cursor := { twofoldGift with contentType := some .json }

/-- It is read in the same way when the alternatives of the gifts are reversed. -/
theorem order_decides_nothing_declaredGift : declaredGift.contentType ≠ none ∧
    (oneOf giftAlternatives).Reads declaredGift ∧
    (oneOf giftAlternatives).Reorders (oneOf giftAlternatives.reverse) ∧
    (oneOf giftAlternatives.reverse).parse declaredGift = (oneOf giftAlternatives).parse declaredGift := by
  have hmem : (⟨GiftRoute, giftAlternatives⟩ : Σ α : Type, List (Matcher α)) ∈ areas := by simp [areas]
  have hdeclared : declaredGift.contentType ≠ none := Option.some_ne_none _
  have hreorders : (oneOf giftAlternatives).Reorders (oneOf giftAlternatives.reverse) :=
    reorders_oneOf giftAlternatives.reverse_perm.symm
  exact ⟨hdeclared, by decide +kernel, hreorders,
    order_decides_nothing.2.2 _ hmem _ hreorders declaredGift hdeclared⟩

end Signpost.Site

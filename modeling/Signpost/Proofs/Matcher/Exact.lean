import Signpost.Proofs.Body.Record
import Signpost.Proofs.Matcher.RoundTrip

/-!
# Values that are read are spelled

A matcher with exact conversions spells every value that it reads, with the same path and method and with
the first values of each query key that it took.

* `Cursor.IsIncoming`: what a request can be read as.
* `Cursor.Recovers`: how a fragment relates to what was read and to what was left.
* `IsExact`: all conversions write back what they read, bodies perhaps in another spelling, and no
  alternative takes over the values of a later one unless it spells them alike.
* `spells_of_parse`: the theorem, by induction on the matcher.
-/

namespace Signpost

/-! ## Incoming cursors -/

/-- What the cursor of a request satisfies, whole or partly read: no empty segments, grouped query fields,
and a body that fits into memory. -/
structure Cursor.IsIncoming (d : Cursor) : Prop where
  path : ∀ segment ∈ d.path, segment ≠ ""
  wellFormed : d.query.WellFormed
  body : ∀ bytes ∈ d.body, FitsMemory bytes

/-- The fragment has the path that was read, no other method than the cursor, and for each key that it
writes the first values of a key that was taken away. -/
structure Cursor.Recovers (d e f : Cursor) : Prop where
  path : d.path = f.path ++ e.path
  method : ∀ m ∈ f.method?, d.method = m
  values : ∀ key values, f.query.find? key = some values →
    ∃ more, d.query.find? key = some (values ++ more)
  taken : ∀ key values, f.query.find? key = some values → e.query.find? key = none
  kept : ∀ key, e.query.find? key = d.query.find? key ∨ e.query.find? key = none
  sameMethod : e.method = d.method

namespace Cursor

variable {d e e' f g : Cursor}

theorem recovers_path (path : List String) (hpath : d.path = path ++ e.path)
    (hquery : e.query = d.query) (hmethod : e.method = d.method) : d.Recovers e { path } where
  path := hpath
  method _ h := nomatch h
  values _ _ h := nomatch h
  taken _ _ h := nomatch h
  kept _ := .inl (by rw [hquery])
  sameMethod := hmethod

theorem recovers_method {m : Http.Method} (hm : d.method = m) :
    d.Recovers d { method? := some m } where
  path := rfl
  method n hn := by rw [← Option.mem_some_iff.1 hn, hm]
  values _ _ h := nomatch h
  taken _ _ h := nomatch h
  kept _ := .inl rfl
  sameMethod := rfl

theorem recovers_body (body : Option Bytes) (contentType : Option Http.MediaType) :
    d.Recovers { d with body := none } { body, contentType } where
  path := rfl
  method _ h := nomatch h
  values _ _ h := nomatch h
  taken _ _ h := nomatch h
  kept _ := .inl rfl
  sameMethod := rfl

/-- Only path, method and query of the fragment matter. -/
theorem Recovers.congr (h : d.Recovers e f) (hpath : g.path = f.path) (hmethod : g.method? = f.method?)
    (hquery : g.query = f.query) : d.Recovers e g where
  path := by rw [hpath, h.path]
  method := by rw [hmethod]; exact h.method
  values := by rw [hquery]; exact h.values
  taken := by rw [hquery]; exact h.taken
  kept := h.kept
  sameMethod := h.sameMethod

/-- Nothing but query fields is read, and the fragment has the first of them or none. -/
theorem recovers_fields {key : String} {values : List String}
    (hvalues : values ≠ [] → ∃ more, d.query.find? key = some (values ++ more)) (hd : d.query.WellFormed)
    (he : e = { d with query := d.query.erase key } ∨ values = [] ∧ e = d) :
    d.Recovers e (Matcher.fields key values) where
  path := by
    rcases he with rfl | ⟨-, rfl⟩
    · rfl
    · rfl
  method _ h := nomatch h
  values other us h := by
    obtain ⟨rfl, rfl, hne⟩ := Matcher.find?_fields_eq_some h
    exact hvalues hne
  taken other us h := by
    obtain ⟨rfl, rfl, hne⟩ := Matcher.find?_fields_eq_some h
    rcases he with rfl | ⟨hnil, -⟩
    · rw [Query.find?_erase hd, if_pos rfl]
    · exact absurd hnil hne
  kept other := by
    rcases he with rfl | ⟨-, rfl⟩
    · rw [Query.find?_erase hd]
      split_ifs
      · exact .inr rfl
      · exact .inl rfl
    · exact .inl rfl
  sameMethod := by
    rcases he with rfl | ⟨-, rfl⟩
    · rfl
    · rfl

/-- A fragment read after another one recovers what the merged fragment does. -/
theorem Recovers.trans (hf : d.Recovers e f) (hg : e.Recovers e' g) (hgq : g.query.WellFormed) :
    d.Recovers e' (f.merge g) where
  path := by rw [hf.path, hg.path, merge, List.append_assoc]
  method m h := by
    rcases Option.or_eq_some_iff.1 h with h | ⟨-, h⟩
    · rw [← hf.sameMethod, hg.method m h]
    · exact hf.method m h
  values key values h := by
    rcases hk : f.query.find? key with _ | us
    · have hkeys : key ∉ f.query.keys := (Query.find?_eq_none_iff _ key).1 hk
      rw [merge, Query.find?_merge_right hgq hkeys] at h
      obtain ⟨more, hmore⟩ := hg.values key values h
      rcases hf.kept key with he | he
      · exact ⟨more, by rw [← he, hmore]⟩
      · rw [he] at hmore
        cases hmore
    · have hkeys : key ∉ g.query.keys := by
        intro hmem
        rcases hgk : g.query.find? key with _ | vs
        · exact (Query.find?_eq_none_iff _ key).1 hgk hmem
        · obtain ⟨more, hmore⟩ := hg.values key vs hgk
          rw [hf.taken key us hk] at hmore
          cases hmore
      rw [merge, Query.find?_merge_left _ hgq hkeys] at h
      exact hf.values key values h
  taken key values h := by
    rcases hk : f.query.find? key with _ | us
    · have hkeys : key ∉ f.query.keys := (Query.find?_eq_none_iff _ key).1 hk
      rw [merge, Query.find?_merge_right hgq hkeys] at h
      exact hg.taken key values h
    · have he := hf.taken key us hk
      rcases hg.kept key with h' | h'
      · rw [h', he]
      · exact h'
  kept key := by
    rcases hg.kept key with h | h
    · rw [h]
      exact hf.kept key
    · exact .inr h
  sameMethod := hg.sameMethod.trans hf.sameMethod

theorem IsIncoming.erase (h : d.IsIncoming) (key : String) :
    IsIncoming { d with query := d.query.erase key } where
  path := h.path
  wellFormed := h.wellFormed.erase key
  body := h.body

theorem IsIncoming.tail (h : d.IsIncoming) {segment : String} {path : List String}
    (hpath : d.path = segment :: path) : IsIncoming { d with path } where
  path other hmem := h.path other (by rw [hpath]; exact List.mem_cons_of_mem _ hmem)
  wellFormed := h.wellFormed
  body := h.body

theorem IsIncoming.withoutBody (h : d.IsIncoming) : IsIncoming { d with body := none } where
  path := h.path
  wellFormed := h.wellFormed
  body _ hmem := nomatch hmem

end Cursor

namespace Matcher

variable {α β : Type}

/-! ## Exact matchers -/

/-- No value of the second matcher is claimed by the first, or the first spells all of them with the
same path, method and query. -/
def Replaces (m n : Matcher α) : Prop :=
  (∀ a, (n.print a .empty).1 ≠ .error .unclaimed → (m.print a .empty).1 = .error .unclaimed) ∨
    ∀ a f chain, n.Spells a f chain → ∃ g chain', m.Spells a g chain' ∧ g.path = f.path ∧
      g.method? = f.method? ∧ g.query = f.query

/-- All conversions are exact, bodies are stable, and alternatives replace the later ones. -/
def IsExact : {α : Type} → Matcher α → Prop
  | _, segment c => c.Exact
  | _, query _ c => c.Exact
  | _, optionalQuery _ c => c.Exact
  | _, queryOr _ c _ => c.Exact
  | _, queryAll _ c => c.Exact
  | _, form codec => codec.Stable
  | _, json codec => codec.Stable
  | _, skip first next => first.IsExact ∧ next.IsExact
  | _, take first next => first.IsExact ∧ next.IsExact
  | _, whole inner => inner.IsExact
  | _, map inner c => inner.IsExact ∧ c.Exact
  | _, choice _ alternative => (∀ i, (alternative i).IsExact) ∧
      ∀ i, ∀ j < i, (alternative j).Replaces (alternative i)
  | _, _ => True

/-! ## What was read -/

/-- A value that one alternative spells is spelled by the alternation. -/
theorem exists_spells_choice {count : Nat} {alternative : Fin count → Matcher α}
    (hrep : ∀ i, ∀ j < i, (alternative j).Replaces (alternative i)) {i : Fin count} {a : α} {f : Cursor}
    {chain : List Feature} (h : (alternative i).Spells a f chain) :
    ∃ g chain', (choice count alternative).Spells a g chain' ∧ g.path = f.path ∧
      g.method? = f.method? ∧ g.query = f.query := by
  have hok : ((alternative i).print a .empty).1 ≠ .error .unclaimed := by
    rw [h.print]
    nofun
  rcases print_choice alternative a .empty with ⟨hnone, -⟩ | ⟨k, ⟨hbefore, hk⟩, -⟩
  · exact absurd (hnone i) hok
  · rcases Nat.lt_trichotomy k i with hlt | heq | hgt
    · rcases hrep i k hlt with hne | hsame
      · exact absurd (hne a hok) hk
      · obtain ⟨g, chain', hg, hrest⟩ := hsame a f chain h
        exact ⟨g, chain', .choice k hbefore hg, hrest⟩
    · have hki : k = i := Fin.ext heq
      subst hki
      exact ⟨f, chain, .choice k hbefore h, rfl, rfl, rfl⟩
    · exact absurd (hbefore i hgt) hok

/-- Exact conversions write back what they read, and read it again. -/
theorem forall₂_exact {c : Conversion String α} (hc : c.Exact) {as : List α} {values : List String}
    (h : List.Forall₂ (fun a value => c.apply value = some a) as values) :
    List.Forall₂ (fun a value => c.unapply a = some value ∧ c.apply value = some a) as values :=
  h.imp fun a value ha => ⟨hc value a ha, ha⟩

/-- A matcher with exact conversions spells what it reads, as it was read. -/
theorem spells_of_parse {m : Matcher α} (hm : m.IsExact) {d e : Cursor} {a : α} (hd : d.IsIncoming)
    (h : m.parse d = (.ok a, e)) :
    e.IsIncoming ∧ ∃ f chain, m.Spells a f chain ∧ d.Recovers e f := by
  induction m generalizing d e with
  | start =>
    cases h
    exact ⟨hd, _, _, .start, Cursor.recovers_path [] rfl rfl rfl⟩
  | literal text =>
    obtain ⟨path, hpath, rfl⟩ := ok_of_parse_literal h
    exact ⟨hd.tail hpath, _, _, .literal text, Cursor.recovers_path [text] hpath rfl rfl⟩
  | method m =>
    obtain ⟨hmethod, rfl⟩ := ok_of_parse_method h
    exact ⟨hd, _, _, .method m, Cursor.recovers_method hmethod⟩
  | segment c =>
    obtain ⟨raw, path, hpath, ha, rfl⟩ := ok_of_parseSegment h
    have hraw : raw ≠ "" := hd.path raw (by rw [hpath]; exact List.mem_cons_self)
    exact ⟨hd.tail hpath, _, _, .segment (hm raw a ha) ha hraw,
      Cursor.recovers_path [raw] hpath rfl rfl⟩
  | query key c =>
    obtain ⟨value, hvalue, ha, rfl⟩ := ok_of_parse_query h
    refine ⟨hd.erase key, _, _, .query (hm value a ha) ha, ?_⟩
    exact Cursor.recovers_fields (fun _ => find?_of_first? hvalue) hd.wellFormed (.inl rfl)
  | optionalQuery key c =>
    rw [parse] at h
    rcases parseOptional_cases key c d with ⟨b, value, more, hp, hfind, ha⟩ | hp
    · rw [hp] at h
      cases h
      refine ⟨hd.erase key, _, _, .optionalQuery_some (hm value b ha) ha, ?_⟩
      exact Cursor.recovers_fields (fun _ => ⟨more, hfind⟩) hd.wellFormed (.inl rfl)
    · rw [hp] at h
      cases h
      refine ⟨hd, _, _, .optionalQuery_none, ?_⟩
      exact Cursor.recovers_fields (fun hne => absurd rfl hne) hd.wellFormed (.inr ⟨rfl, rfl⟩)
  | queryOr key c default =>
    rw [parse] at h
    rcases parseOptional_cases key c d with ⟨b, value, more, hp, hfind, ha⟩ | hp
    · rw [hp] at h
      cases h
      -- A default that is asked for by name is taken from the query, but it is not written.
      by_cases hdefault : b = default
      · subst hdefault
        refine ⟨hd.erase key, _, _, .queryOr_default, ?_⟩
        exact Cursor.recovers_fields (fun hne => absurd rfl hne) hd.wellFormed (.inl rfl)
      · refine ⟨hd.erase key, _, _, .queryOr_other hdefault (hm value b ha) ha, ?_⟩
        exact Cursor.recovers_fields (fun _ => ⟨more, hfind⟩) hd.wellFormed (.inl rfl)
    · rw [hp] at h
      cases h
      refine ⟨hd, _, _, .queryOr_default, ?_⟩
      exact Cursor.recovers_fields (fun hne => absurd rfl hne) hd.wellFormed (.inr ⟨rfl, rfl⟩)
  | queryAll key c =>
    rcases ok_of_parse_queryAll h with ⟨rfl, rfl⟩ | ⟨values, hfind, has, rfl⟩
    · refine ⟨hd, _, _, .queryAll .nil, ?_⟩
      exact Cursor.recovers_fields (fun hne => absurd rfl hne) hd.wellFormed (.inr ⟨rfl, rfl⟩)
    · refine ⟨hd.erase key, _, _, .queryAll (forall₂_exact hm has), ?_⟩
      refine Cursor.recovers_fields (fun _ => ⟨[], ?_⟩) hd.wellFormed (.inl rfl)
      rw [hfind, List.append_nil]
  | form codec =>
    obtain ⟨bytes, hbody, hdecode, rfl⟩ := parseBody_ok h
    have hbytes : FitsMemory bytes := by
      rcases hbody with hbody | ⟨-, hmissing⟩
      · exact hd.body bytes hbody
      · cases hmissing
        exact fitsMemory_nil
    obtain ⟨written, hencode, hagain⟩ := hm bytes a hbytes hdecode
    exact ⟨hd.withoutBody, _, _, .form hencode hagain, Cursor.recovers_body _ _⟩
  | json codec =>
    obtain ⟨bytes, hbody, hdecode, rfl⟩ := parseBody_ok h
    have hbytes : FitsMemory bytes := by
      rcases hbody with hbody | ⟨-, hmissing⟩
      · exact hd.body bytes hbody
      · cases hmissing
    obtain ⟨written, hencode, hagain⟩ := hm bytes a hbytes hdecode
    exact ⟨hd.withoutBody, _, _, .json hencode hagain, Cursor.recovers_body _ _⟩
  | rawBody =>
    obtain ⟨-, rfl⟩ := ok_of_parse_rawBody h
    exact ⟨hd.withoutBody, _, _, .rawBody a, Cursor.recovers_body _ _⟩
  | skip first next ihf ihn =>
    obtain ⟨d', hf, hn⟩ := ok_of_parse_skip h
    obtain ⟨hd', f, chain, hsf, hrf⟩ := ihf hm.1 hd hf
    obtain ⟨he, g, chain', hsn, hrn⟩ := ihn hm.2 hd' hn
    exact ⟨he, _, _, .skip hsf hsn, hrf.trans hrn hsn.fits.wellFormed⟩
  | take first next ihf ihn =>
    obtain ⟨d', hf, hn⟩ := ok_of_parse_take h
    obtain ⟨hd', f, chain, hsf, hrf⟩ := ihf hm.1 hd hf
    obtain ⟨he, g, chain', hsn, hrn⟩ := ihn hm.2 hd' hn
    exact ⟨he, _, _, .take hsf hsn, hrf.trans hrn hsn.fits.wellFormed⟩
  | whole inner ih =>
    obtain ⟨hi, -⟩ := ok_of_parse_whole h
    obtain ⟨he, f, chain, hsi, hri⟩ := ih hm hd hi
    exact ⟨he, f, chain, .whole hsi, hri⟩
  | map inner c ih =>
    obtain ⟨b, hi, hb⟩ := ok_of_parse_map h
    obtain ⟨he, f, chain, hsi, hri⟩ := ih hm.1 hd hi
    exact ⟨he, f, chain, .map (hm.2 _ _ hb) hb hsi, hri⟩
  | choice count alternative ih =>
    obtain ⟨i, hi⟩ := exists_of_parse_choice h
    obtain ⟨he, f, chain, hf, hrf⟩ := ih i (hm.1 i) hd hi
    obtain ⟨g, chain', hg, hpath, hmethod, hquery⟩ := exists_spells_choice hm.2 hf
    exact ⟨he, g, chain', hg, hrf.congr hpath hmethod hquery⟩

end Matcher

end Signpost

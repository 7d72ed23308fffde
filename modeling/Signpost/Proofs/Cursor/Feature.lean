import Mathlib.Tactic.Common
import Signpost.Proofs.Cursor.Merge

/-!
# Features of a cursor

A feature is what a request has besides its path: the values of a query key, the method, the body. A
matcher uses a chain of them, in order.

* `IsSound`: no two places of a chain use features that exclude each other.
* `Cursor.Fits`: a fragment holds the features of a chain and no others.
* `Cursor.Carries`, `Cursor.Spent`: a cursor carries a fragment, and what is left of it once the
  fragment is read. `Carries.first` and `Carries.next` split a merged fragment along a sound chain.
-/

namespace Signpost

/-- A part of a request that does not stand in the path. -/
inductive Feature where
  /-- The values of a query key. -/
  | field (key : String)
  | method (method : Http.Method)
  /-- The body and its media type. -/
  | body
deriving DecidableEq

/-- Matchers of one chain may use these features: their query keys differ, they name the same method,
and at most one of them has a body. -/
def Feature.compatible : Feature → Feature → Bool
  | field key, field other => key ≠ other
  | method m, method n => m = n
  | body, body => false
  | _, _ => true

/-- All features of a chain may be used together. -/
def IsSound (chain : List Feature) : Prop := chain.Pairwise fun f g => f.compatible g

instance (chain : List Feature) : Decidable (IsSound chain) := by
  unfold IsSound
  infer_instance

namespace IsSound

variable {chain chain' : List Feature}

theorem left (h : IsSound (chain ++ chain')) : IsSound chain := (List.pairwise_append.1 h).1

theorem right (h : IsSound (chain ++ chain')) : IsSound chain' := (List.pairwise_append.1 h).2.1

/-- A query key is not used on both sides, and neither is the body. -/
theorem notMem_right (h : IsSound (chain ++ chain')) {x : Feature} (hx : x.compatible x = false)
    (hmem : x ∈ chain) : x ∉ chain' := by
  intro hmem'
  have := (List.pairwise_append.1 h).2.2 x hmem x hmem'
  rw [hx] at this
  cases this

theorem method_eq (h : IsSound chain) {m n : Http.Method} (hm : .method m ∈ chain)
    (hn : .method n ∈ chain) : m = n := by
  induction chain with
  | nil => cases hm
  | cons x chain ih =>
    obtain ⟨hx, hc⟩ := List.pairwise_cons.1 h
    rcases List.mem_cons.1 hm with rfl | hm' <;> rcases List.mem_cons.1 hn with hn' | hn'
    · exact (Feature.method.inj hn').symm
    · exact of_decide_eq_true (hx _ hn')
    · subst hn'
      exact (of_decide_eq_true (hx _ hm')).symm
    · exact ih hc hm' hn'

end IsSound

namespace Cursor

/-! ## Fragments -/

/-- A fragment holds the features of a chain and no others. -/
structure Fits (f : Cursor) (chain : List Feature) : Prop where
  wellFormed : f.query.WellFormed
  field_mem : ∀ key ∈ f.query.keys, .field key ∈ chain
  method_mem : ∀ m ∈ f.method?, .method m ∈ chain
  method_isSome : ∀ m, .method m ∈ chain → f.method?.isSome
  body : .body ∉ chain → f.body = none ∧ f.contentType = none
  malformed : f.malformed = none

theorem fits_path (path : List String) : Fits { path } [] where
  wellFormed := Query.wellFormed_empty
  field_mem _ h := nomatch h
  method_mem _ h := nomatch h
  method_isSome _ h := nomatch h
  body _ := ⟨rfl, rfl⟩
  malformed := rfl

theorem fits_method (m : Http.Method) : Fits { method? := some m } [.method m] where
  wellFormed := Query.wellFormed_empty
  field_mem _ h := nomatch h
  method_mem _ h := by
    rw [Option.mem_some_iff.1 h]
    exact List.mem_singleton_self _
  method_isSome _ _ := rfl
  body _ := ⟨rfl, rfl⟩
  malformed := rfl

theorem fits_body (bytes : Bytes) (contentType : Option Http.MediaType) :
    Fits { body := some bytes, contentType } [.body] where
  wellFormed := Query.wellFormed_empty
  field_mem _ h := nomatch h
  method_mem _ h := nomatch h
  method_isSome _ h := by simp at h
  body h := absurd (List.mem_singleton_self _) h
  malformed := rfl

variable {d e f g : Cursor} {chain chain' : List Feature} {rest : List String}

theorem Fits.merge (hf : f.Fits chain) (hg : g.Fits chain') : (f.merge g).Fits (chain ++ chain') where
  wellFormed := hf.wellFormed.merge g.query
  field_mem key h := by
    rw [List.mem_append]
    exact ((Query.mem_keys_merge f.query hg.wellFormed key).1 h).imp (hf.field_mem key)
      (hg.field_mem key)
  method_mem m h := by
    rw [List.mem_append]
    rcases Option.or_eq_some_iff.1 h with h | ⟨-, h⟩
    · exact .inr (hg.method_mem m h)
    · exact .inl (hf.method_mem m h)
  method_isSome m h := by
    rw [Cursor.merge, Option.isSome_or, Bool.or_eq_true]
    rcases List.mem_append.1 h with h | h
    · exact .inr (hf.method_isSome m h)
    · exact .inl (hg.method_isSome m h)
  body h := by
    rw [List.mem_append, not_or] at h
    obtain ⟨hbody, htype⟩ := hf.body h.1
    obtain ⟨hbody', htype'⟩ := hg.body h.2
    simp only [Cursor.merge, hbody, hbody', htype, htype', Option.or_none, and_self]
  malformed := hf.malformed

theorem Fits.find?_eq_none (hf : f.Fits chain) {key : String} (hk : .field key ∉ chain) :
    f.query.find? key = none :=
  (Query.find?_eq_none_iff _ key).2 fun hmem => hk (hf.field_mem key hmem)

/-- Along a sound chain the fragment has the method that the chain names. -/
theorem Fits.method?_eq (hf : f.Fits chain) (hs : IsSound chain) {m : Http.Method}
    (hm : .method m ∈ chain) : f.method? = some m := by
  obtain ⟨n, hn⟩ := Option.isSome_iff_exists.1 (hf.method_isSome m hm)
  rw [hn, hs.method_eq (hf.method_mem n hn) hm]

/-! ## Reading a fragment -/

/-- The cursor begins with the path of a fragment and has its features, as far as the chain names
them. -/
structure Carries (d f : Cursor) (chain : List Feature) (rest : List String) : Prop where
  wellFormed : d.query.WellFormed
  path : d.path = f.path ++ rest
  find? : ∀ key, .field key ∈ chain → d.query.find? key = f.query.find? key
  method : ∀ m, .method m ∈ chain → d.method = m
  body : .body ∈ chain → d.body = f.body ∧ d.contentType = f.contentType

/-- What is left of the cursor once the features of a chain and a part of the path are read. -/
structure Spent (d e : Cursor) (chain : List Feature) (rest : List String) : Prop where
  wellFormed : e.query.WellFormed
  path : e.path = rest
  find? : ∀ key, .field key ∉ chain → e.query.find? key = d.query.find? key
  method : e.method = d.method
  contentType : e.contentType = d.contentType
  body : e.body = if .body ∈ chain then none else d.body

/-- What carries a merged fragment carries the first one, before the path of the second. -/
theorem Carries.first (h : d.Carries (f.merge g) (chain ++ chain') rest)
    (hs : IsSound (chain ++ chain')) (hg : g.Fits chain') : d.Carries f chain (g.path ++ rest) where
  wellFormed := h.wellFormed
  path := by rw [h.path, merge, List.append_assoc]
  find? key hk := by
    have hg' : key ∉ g.query.keys := fun hmem =>
      hs.notMem_right (by simp [Feature.compatible]) hk (hg.field_mem key hmem)
    rw [h.find? key (List.mem_append_left _ hk), merge, Query.find?_merge_left _ hg.wellFormed hg']
  method m hm := h.method m (List.mem_append_left _ hm)
  body hb := by
    obtain ⟨hbody, htype⟩ := hg.body (hs.notMem_right rfl hb)
    have hd := h.body (List.mem_append_left _ hb)
    rwa [merge, hbody, htype, Option.none_or, Option.none_or] at hd

/-- Once the first fragment is read, what carried both carries the second. -/
theorem Carries.next (h : d.Carries (f.merge g) (chain ++ chain') rest)
    (hs : IsSound (chain ++ chain')) (hf : f.Fits chain) (hg : g.Fits chain')
    (he : d.Spent e chain (g.path ++ rest)) : e.Carries g chain' rest where
  wellFormed := he.wellFormed
  path := he.path
  find? key hk := by
    have hk' : .field key ∉ chain := fun hmem =>
      hs.notMem_right (by simp [Feature.compatible]) hmem hk
    have hf' : key ∉ f.query.keys := fun hmem => hk' (hf.field_mem key hmem)
    rw [he.find? key hk', h.find? key (List.mem_append_right _ hk), merge,
      Query.find?_merge_right hg.wellFormed hf']
  method m hm := by rw [he.method, h.method m (List.mem_append_right _ hm)]
  body hb := by
    have hb' : .body ∉ chain := fun hmem => hs.notMem_right rfl hmem hb
    obtain ⟨hbody, htype⟩ := hf.body hb'
    have hd := h.body (List.mem_append_right _ hb)
    rw [merge, hbody, htype, Option.or_none, Option.or_none] at hd
    rw [he.body, he.contentType, if_neg hb']
    exact hd

theorem Spent.trans (h : d.Spent e chain (g.path ++ rest)) (h' : e.Spent f chain' rest) :
    d.Spent f (chain ++ chain') rest where
  wellFormed := h'.wellFormed
  path := h'.path
  find? key hk := by
    rw [List.mem_append, not_or] at hk
    rw [h'.find? key hk.2, h.find? key hk.1]
  method := h'.method.trans h.method
  contentType := h'.contentType.trans h.contentType
  body := by
    rw [h'.body, h.body]
    simp only [List.mem_append]
    split_ifs <;> tauto

/-! ## Steps -/

theorem spent_path (hd : d.query.WellFormed) (path : List String) :
    d.Spent { d with path } [] path where
  wellFormed := hd
  path := rfl
  find? _ _ := rfl
  method := rfl
  contentType := rfl
  body := rfl

/-- A feature that is read without a change. -/
theorem spent_self (hd : d.query.WellFormed) (hpath : d.path = rest) {x : Feature} (hx : x ≠ .body) :
    d.Spent d [x] rest where
  wellFormed := hd
  path := hpath
  find? _ _ := rfl
  method := rfl
  contentType := rfl
  body := by rw [if_neg (by simpa using hx.symm)]

theorem spent_erase (hd : d.query.WellFormed) (hpath : d.path = rest) (key : String) :
    d.Spent { d with query := d.query.erase key } [.field key] rest where
  wellFormed := hd.erase key
  path := hpath
  find? other hk := by
    rw [Query.find?_erase hd, if_neg]
    rintro rfl
    exact hk (List.mem_singleton_self _)
  method := rfl
  contentType := rfl
  body := rfl

theorem spent_body (hd : d.query.WellFormed) (hpath : d.path = rest) :
    d.Spent { d with body := none } [.body] rest where
  wellFormed := hd
  path := hpath
  find? _ _ := rfl
  method := rfl
  contentType := rfl
  body := rfl

end Cursor

end Signpost

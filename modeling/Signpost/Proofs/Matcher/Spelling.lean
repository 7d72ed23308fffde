import Mathlib.Data.List.Forall2
import Signpost.Proofs.Cursor.Feature
import Signpost.Proofs.Matcher.Printing

/-!
# Spellings

How a matcher spells a value: what it writes onto the empty cursor, when every part of that reads back
by itself as the part of the value it was written for.

* `Matcher.chains`: the features that a matcher may use besides the path, one chain for each way
  through its alternatives. `IsSound` chains use no feature in two conflicting ways.
* `Matcher.Spells` relates a value to its fragment and to the chain along which it is written;
  `Spells.print`, `spells_of_print`: with faithful conversions this is what is written.
* `Spells.fits`: a fragment holds no other features than those of its chain.
-/

namespace Signpost

namespace Matcher

variable {α β : Type}

/-- The features that a matcher uses, for each way through its alternatives. -/
def chains : {α : Type} → Matcher α → List (List Feature)
  | _, start => [[]]
  | _, literal _ => [[]]
  | _, method m => [[.method m]]
  | _, segment _ => [[]]
  | _, query key _ => [[.field key]]
  | _, optionalQuery key _ => [[.field key]]
  | _, queryOr key _ _ => [[.field key]]
  | _, queryAll key _ => [[.field key]]
  | _, form _ => [[.body]]
  | _, json _ => [[.body]]
  | _, rawBody => [[.body]]
  | _, skip first next => first.chains.flatMap fun chain => next.chains.map (chain ++ ·)
  | _, take first next => first.chains.flatMap fun chain => next.chains.map (chain ++ ·)
  | _, whole inner => inner.chains
  | _, map inner _ => inner.chains
  | _, choice _ alternative => (List.ofFn fun i => (alternative i).chains).flatten

/-- Every conversion and every codec reads what it writes as the same value. -/
def Faithful : {α : Type} → Matcher α → Prop
  | _, segment c => c.Faithful
  | _, query _ c => c.Faithful
  | _, optionalQuery _ c => c.Faithful
  | _, queryOr _ c _ => c.Faithful
  | _, queryAll _ c => c.Faithful
  | _, form codec => codec.Faithful
  | _, json codec => codec.Faithful
  | _, skip first next => first.Faithful ∧ next.Faithful
  | _, take first next => first.Faithful ∧ next.Faithful
  | _, whole inner => inner.Faithful
  | _, map inner c => inner.Faithful ∧ c.Faithful
  | _, choice _ alternative => ∀ i, (alternative i).Faithful
  | _, _ => True

/-! ## Spellings -/

/-- The fragment with some values of one query key. -/
def fields (key : String) (values : List String) : Cursor :=
  { query := Query.empty.pushAll (values.map (key, ·)) }

/-- The matcher spells the value as the fragment, along the chain. -/
inductive Spells : {α : Type} → Matcher α → α → Cursor → List Feature → Prop
  | start : Spells start () .empty []
  | literal (text : String) : Spells (literal text) () { path := [text] } []
  | method (m : Http.Method) : Spells (method m) () { method? := some m } [.method m]
  | segment {α : Type} {c : Conversion String α} {a : α} {text : String} (hc : c.unapply a = some text)
      (ha : c.apply text = some a) (ht : text ≠ "") : Spells (segment c) a { path := [text] } []
  | query {α : Type} {key : String} {c : Conversion String α} {a : α} {value : String}
      (hc : c.unapply a = some value) (ha : c.apply value = some a) :
      Spells (query key c) a (fields key [value]) [.field key]
  | optionalQuery_none {α : Type} {key : String} {c : Conversion String α} :
      Spells (optionalQuery key c) none (fields key []) [.field key]
  | optionalQuery_some {α : Type} {key : String} {c : Conversion String α} {a : α} {value : String}
      (hc : c.unapply a = some value) (ha : c.apply value = some a) :
      Spells (optionalQuery key c) (some a) (fields key [value]) [.field key]
  | queryOr_default {α : Type} [DecidableEq α] {key : String} {c : Conversion String α} {default : α} :
      Spells (queryOr key c default) default (fields key []) [.field key]
  | queryOr_other {α : Type} [DecidableEq α] {key : String} {c : Conversion String α} {default a : α}
      {value : String} (hne : a ≠ default) (hc : c.unapply a = some value)
      (ha : c.apply value = some a) : Spells (queryOr key c default) a (fields key [value]) [.field key]
  | queryAll {α : Type} {key : String} {c : Conversion String α} {as : List α} {values : List String}
      (hc : List.Forall₂ (fun a value => c.unapply a = some value ∧ c.apply value = some a) as values) :
      Spells (queryAll key c) as (fields key values) [.field key]
  | form {α : Type} {codec : BodyCodec α} {a : α} {bytes : Bytes} (hc : codec.encode? a = some bytes)
      (ha : codec.decode? bytes = some a) :
      Spells (form codec) a { body := some bytes, contentType := some .form } [.body]
  | json {α : Type} {codec : BodyCodec α} {a : α} {bytes : Bytes} (hc : codec.encode? a = some bytes)
      (ha : codec.decode? bytes = some a) :
      Spells (json codec) a { body := some bytes, contentType := some .json } [.body]
  | rawBody (bytes : Bytes) : Spells rawBody bytes { body := some bytes } [.body]
  | skip {α : Type} {first : Matcher α} {next : Matcher Unit} {a : α} {f g : Cursor}
      {chain chain' : List Feature} (hf : Spells first a f chain) (hn : Spells next () g chain') :
      Spells (skip first next) a (f.merge g) (chain ++ chain')
  | take {α β : Type} {first : Matcher α} {next : Matcher β} {a : α} {b : β} {f g : Cursor}
      {chain chain' : List Feature} (hf : Spells first a f chain) (hn : Spells next b g chain') :
      Spells (take first next) (a, b) (f.merge g) (chain ++ chain')
  | whole {α : Type} {inner : Matcher α} {a : α} {f : Cursor} {chain : List Feature}
      (h : Spells inner a f chain) : Spells (whole inner) a f chain
  | map {α β : Type} {inner : Matcher α} {c : Conversion α β} {a : α} {b : β} {f : Cursor}
      {chain : List Feature} (hc : c.unapply b = some a) (hb : c.apply a = some b)
      (h : Spells inner a f chain) : Spells (map inner c) b f chain
  | choice {α : Type} {count : Nat} {alternative : Fin count → Matcher α} {a : α} {f : Cursor}
      {chain : List Feature} (i : Fin count)
      (hbefore : ∀ j < i, ((alternative j).print a .empty).1 = .error .unclaimed)
      (h : Spells (alternative i) a f chain) : Spells (choice count alternative) a f chain

/-! ## Fields -/

theorem wellFormed_fields (key : String) (values : List String) :
    (fields key values).query.WellFormed :=
  Query.wellFormed_empty.pushAll _

theorem mem_keys_fields {key other : String} {values : List String}
    (h : other ∈ (fields key values).query.keys) : other = key := by
  rcases (Query.mem_keys_pushAll Query.empty _ other).1 h with h | h
  · cases h
  · rw [List.map_map] at h
    obtain ⟨_, -, rfl⟩ := List.mem_map.1 h
    rfl

theorem find?_fields (key : String) (values : List String) :
    (fields key values).query.find? key = if values = [] then none else some values := by
  rw [fields, Query.find?_pushAll]
  cases values with
  | nil => rfl
  | cons value values =>
    have hv : (((value :: values).map (key, ·)).filter (·.1 = key)).map (·.2) = value :: values := by
      rw [List.filter_eq_self.2 (by simp), List.map_map]
      exact List.map_id _
    rw [hv]
    simp [Query.find?, Query.empty]

theorem find?_fields_eq_some {key other : String} {values us : List String}
    (h : (fields key values).query.find? other = some us) :
    other = key ∧ us = values ∧ values ≠ [] := by
  have hkey : other = key := by
    by_contra hne
    have hmem : other ∉ (fields key values).query.keys := fun hmem => hne (mem_keys_fields hmem)
    rw [(Query.find?_eq_none_iff _ other).2 hmem] at h
    cases h
  subst hkey
  rw [find?_fields] at h
  split_ifs at h with hne
  exact ⟨rfl, (Option.some.inj h).symm, hne⟩

theorem printField_of_unapply {key : String} {c : Conversion String α} {a : α} {value : String}
    (hc : c.unapply a = some value) (d : Cursor) :
    printField key c a d = (.ok (), d.pushQuery key value) := by
  rw [printField, hc]

theorem printFields_of_forall₂ {key : String} {c : Conversion String α} {as : List α}
    {values : List String} (h : List.Forall₂ (fun a value => c.unapply a = some value) as values)
    (d : Cursor) :
    printFields key c as d = (.ok (), { d with query := d.query.pushAll (values.map (key, ·)) }) := by
  induction h generalizing d with
  | nil => rfl
  | cons hc _ ih =>
    rw [printFields, printField_of_unapply hc]
    exact ih _

/-! ## Spellings are written -/

/-- What is written onto the empty cursor is added to any other. -/
theorem print_of_empty {m : Matcher α} {a : α} {f : Cursor} (h : m.print a .empty = (.ok (), f))
    (d : Cursor) : m.print a d = (.ok (), d.merge f) := by
  rw [print_eq_merge, h]

theorem empty_merge_of_print {m : Matcher α} {a : α} {f : Cursor}
    (h : m.print a .empty = (.ok (), f)) : Cursor.empty.merge f = f := by
  have hk := print_keeps m a .empty
  rw [h] at hk
  exact Cursor.empty_merge (hk.1 Query.wellFormed_empty) hk.2

/-- An alternation writes with the alternative before which none claims the value. -/
theorem print_choice_of_before {count : Nat} {alternative : Fin count → Matcher α} {a : α}
    {i : Fin count} (hbefore : ∀ j < i, ((alternative j).print a .empty).1 = .error .unclaimed)
    {f : Cursor} (hi : (alternative i).print a .empty = (.ok (), f)) :
    (choice count alternative).print a .empty = (.ok (), f) := by
  rcases print_choice alternative a .empty with ⟨hnone, -⟩ | ⟨k, ⟨hk, hk'⟩, hp⟩
  · have := hnone i
    rw [hi] at this
    cases this
  · have hki : k = i := by
      rcases Nat.lt_trichotomy k i with h | h | h
      · exact absurd (hbefore k h) hk'
      · exact Fin.ext h
      · have := hk i h
        rw [hi] at this
        cases this
    subst hki
    rcases hp with ⟨-, hp⟩ | ⟨e, he, -⟩
    · rw [hp, hi, empty_merge_of_print hi]
    · rw [hi] at he
      cases he

/-- A spelling is what the matcher writes. -/
theorem Spells.print {m : Matcher α} {a : α} {f : Cursor} {chain : List Feature}
    (h : m.Spells a f chain) : m.print a .empty = (.ok (), f) := by
  induction h with
  | start | literal | method | rawBody | optionalQuery_none => rfl
  | segment hc ha ht =>
    rw [Matcher.print, hc]
    dsimp only
    rw [if_neg ht]
    rfl
  | query hc ha => exact printField_of_unapply hc _
  | optionalQuery_some hc ha => exact printField_of_unapply hc _
  | queryOr_default =>
    rw [Matcher.print, if_pos rfl]
    rfl
  | queryOr_other hne hc ha =>
    rw [Matcher.print, if_neg hne]
    exact printField_of_unapply hc _
  | queryAll hc => exact printFields_of_forall₂ (hc.imp fun _ _ h => h.1) _
  | form hc ha =>
    rw [Matcher.print, printBody, hc]
    rfl
  | json hc ha =>
    rw [Matcher.print, printBody, hc]
    rfl
  | skip hf hn ihf ihn =>
    rw [Matcher.print, ihf]
    exact print_of_empty ihn _
  | take hf hn ihf ihn =>
    rw [Matcher.print, ihf]
    exact print_of_empty ihn _
  | whole h ih => exact ih
  | map hc hb h ih =>
    rw [Matcher.print, hc]
    dsimp only
    rw [ih]
    dsimp only
    rw [empty_merge_of_print ih]
  | choice i hbefore h ih => exact print_choice_of_before hbefore ih

/-! ## What is written is a spelling -/

theorem unapply_of_printField {key : String} {c : Conversion String α} {a : α} {d f : Cursor}
    (h : printField key c a d = (.ok (), f)) :
    ∃ value, c.unapply a = some value ∧ f = d.pushQuery key value := by
  unfold printField at h
  split at h
  · rename_i value hc
    exact ⟨value, hc, (Prod.mk.inj h).2.symm⟩
  · simp at h

theorem forall₂_of_printFields {key : String} {c : Conversion String α} {as : List α} {d f : Cursor}
    (h : printFields key c as d = (.ok (), f)) :
    ∃ values, List.Forall₂ (fun a value => c.unapply a = some value) as values ∧
      f = { d with query := d.query.pushAll (values.map (key, ·)) } := by
  induction as generalizing d with
  | nil => exact ⟨[], .nil, (Prod.mk.inj h).2.symm⟩
  | cons a as ih =>
    rw [printFields] at h
    split at h
    · rename_i e he
      obtain ⟨value, hc, rfl⟩ := unapply_of_printField he
      obtain ⟨values, hcs, rfl⟩ := ih h
      exact ⟨value :: values, .cons hc hcs, rfl⟩
    · simp at h

theorem encode_of_printBody {mediaType : Http.MediaType} {codec : BodyCodec α} {a : α} {f : Cursor}
    (h : printBody mediaType codec a .empty = (.ok (), f)) :
    ∃ bytes, codec.encode? a = some bytes ∧
      f = { body := some bytes, contentType := some mediaType } := by
  unfold printBody at h
  split at h
  · rename_i bytes hc
    exact ⟨bytes, hc, (Prod.mk.inj h).2.symm⟩
  · simp at h

/-- What two matchers write in order is the first fragment with the second added. -/
theorem print_of_ok {m : Matcher α} {a : α} {d f : Cursor} (h : m.print a d = (.ok (), f)) :
    ∃ g, m.print a .empty = (.ok (), g) ∧ f = d.merge g := by
  rw [print_eq_merge] at h
  obtain ⟨hok, hf⟩ := Prod.mk.inj h
  exact ⟨_, Prod.ext hok rfl, hf.symm⟩

/-- A matcher with faithful conversions spells whatever it writes. -/
theorem spells_of_print {m : Matcher α} (hm : m.Faithful) {a : α} {f : Cursor}
    (h : m.print a .empty = (.ok (), f)) : ∃ chain, m.Spells a f chain := by
  induction m generalizing f with
  | start =>
    cases h
    exact ⟨_, .start⟩
  | literal text =>
    cases h
    exact ⟨_, .literal text⟩
  | method m =>
    cases h
    exact ⟨_, .method m⟩
  | rawBody =>
    cases h
    exact ⟨_, .rawBody _⟩
  | segment c =>
    rw [print] at h
    split at h
    · rename_i text hc
      split_ifs at h with ht
      · simp at h
      · cases h
        exact ⟨_, .segment hc (hm _ _ hc) ht⟩
    · simp at h
  | query key c =>
    obtain ⟨value, hc, rfl⟩ := unapply_of_printField h
    exact ⟨_, .query hc (hm _ _ hc)⟩
  | optionalQuery key c =>
    cases a with
    | none =>
      cases h
      exact ⟨_, .optionalQuery_none⟩
    | some a =>
      obtain ⟨value, hc, rfl⟩ := unapply_of_printField h
      exact ⟨_, .optionalQuery_some hc (hm _ _ hc)⟩
  | queryOr key c default =>
    rw [print] at h
    split_ifs at h with hd
    · cases h
      subst hd
      exact ⟨_, .queryOr_default⟩
    · obtain ⟨value, hc, rfl⟩ := unapply_of_printField h
      exact ⟨_, .queryOr_other hd hc (hm _ _ hc)⟩
  | queryAll key c =>
    obtain ⟨values, hc, rfl⟩ := forall₂_of_printFields h
    exact ⟨_, .queryAll (hc.imp fun a value h => ⟨h, hm _ _ h⟩)⟩
  | form codec =>
    obtain ⟨bytes, hc, rfl⟩ := encode_of_printBody h
    exact ⟨_, .form hc (hm _ _ hc)⟩
  | json codec =>
    obtain ⟨bytes, hc, rfl⟩ := encode_of_printBody h
    exact ⟨_, .json hc (hm _ _ hc)⟩
  | skip first next ihf ihn =>
    rw [print] at h
    split at h
    · rename_i e he
      obtain ⟨chain, hf⟩ := ihf hm.1 he
      obtain ⟨g, hg, rfl⟩ := print_of_ok h
      obtain ⟨chain', hn⟩ := ihn hm.2 hg
      exact ⟨_, .skip hf hn⟩
    · simp at h
  | take first next ihf ihn =>
    obtain ⟨a, b⟩ := a
    rw [print] at h
    split at h
    · rename_i e he
      obtain ⟨chain, hf⟩ := ihf hm.1 he
      obtain ⟨g, hg, rfl⟩ := print_of_ok h
      obtain ⟨chain', hn⟩ := ihn hm.2 hg
      exact ⟨_, .take hf hn⟩
    · simp at h
  | whole inner ih =>
    obtain ⟨chain, hi⟩ := ih hm h
    exact ⟨chain, .whole hi⟩
  | map inner c ih =>
    rw [print] at h
    split at h
    · simp at h
    · rename_i b hc
      split at h
      · rename_i g hg
        obtain ⟨chain, hi⟩ := ih hm.1 hg
        rw [empty_merge_of_print hg] at h
        cases h
        exact ⟨chain, .map hc (hm.2 _ _ hc) hi⟩
      · simp at h
      · simp at h
  | choice count alternative ih =>
    rcases print_choice alternative a .empty with ⟨-, hp⟩ | ⟨i, ⟨hbefore, -⟩, ⟨hok, hp⟩ | ⟨e, -, hp⟩⟩
    · rw [h] at hp
      cases (Prod.mk.inj hp).1
    · have hi : (alternative i).print a .empty = (.ok (), ((alternative i).print a .empty).2) :=
        Prod.ext hok rfl
      rw [h, empty_merge_of_print hi] at hp
      rw [← (Prod.mk.inj hp).2] at hi
      obtain ⟨chain, hs⟩ := ih i (hm i) hi
      exact ⟨chain, .choice i hbefore hs⟩
    · rw [h] at hp
      cases (Prod.mk.inj hp).1

/-! ## Chains -/

/-- A value is spelled along one of the chains of the matcher. -/
theorem Spells.mem_chains {m : Matcher α} {a : α} {f : Cursor} {chain : List Feature}
    (h : m.Spells a f chain) : chain ∈ m.chains := by
  induction h with
  | skip hf hn ihf ihn =>
    exact List.mem_flatMap.2 ⟨_, ihf, List.mem_map.2 ⟨_, ihn, rfl⟩⟩
  | take hf hn ihf ihn =>
    exact List.mem_flatMap.2 ⟨_, ihf, List.mem_map.2 ⟨_, ihn, rfl⟩⟩
  | whole h ih => exact ih
  | map hc hb h ih => exact ih
  | choice i hbefore h ih => exact List.mem_flatten.2 ⟨_, List.mem_ofFn.2 ⟨i, rfl⟩, ih⟩
  | _ => exact List.mem_singleton_self _

/-! ## The features of a fragment -/

theorem fits_fields (key : String) (values : List String) :
    (fields key values).Fits [.field key] where
  wellFormed := wellFormed_fields key values
  field_mem other h := by rw [mem_keys_fields h]; exact List.mem_singleton_self _
  method_mem _ h := nomatch h
  method_isSome _ h := by simp at h
  body _ := ⟨rfl, rfl⟩
  malformed := rfl

/-- The fragment of a spelling holds the features of its chain. -/
theorem Spells.fits {m : Matcher α} {a : α} {f : Cursor} {chain : List Feature}
    (h : m.Spells a f chain) : f.Fits chain := by
  induction h with
  | start => exact Cursor.fits_path []
  | literal text => exact Cursor.fits_path [text]
  | segment => exact Cursor.fits_path _
  | method m => exact Cursor.fits_method m
  | query | optionalQuery_none | optionalQuery_some | queryOr_default | queryOr_other | queryAll =>
    exact fits_fields _ _
  | form | json | rawBody => exact Cursor.fits_body _ _
  | skip hf hn ihf ihn => exact ihf.merge ihn
  | take hf hn ihf ihn => exact ihf.merge ihn
  | whole h ih => exact ih
  | map hc hb h ih => exact ih
  | choice i hbefore h ih => exact ih

end Matcher

end Signpost

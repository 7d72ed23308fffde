import Signpost.Proofs.Matcher.Case

/-!
# Which values are spelled

Whether a matcher spells a value is a question about the conversions that the value goes through.

* `Spellable`: every part of the value is written and read back by its conversion. These are the values that
  have a spelling, by `Spells.spellable` and `exists_spells_of_spellable`.
* `spellable_oneOf`: an alternation spells a value as the first alternative that takes it.
* `isBare_print`: what is written for a value that uses no body has none.
-/

namespace Signpost

/-! ## Cursors without a body -/

/-- The cursor has neither a body nor a media type. -/
structure Cursor.IsBare (d : Cursor) : Prop where
  body : d.body = none
  contentType : d.contentType = none

namespace Cursor

theorem isBare_empty : IsBare .empty := ⟨rfl, rfl⟩

theorem isWriting_isBare : IsWriting fun d e => d.IsBare → e.IsBare where
  refl _ := id
  trans h h' := h' ∘ h
  pushSegment _ _ h := ⟨h.body, h.contentType⟩
  setMethod _ _ h := ⟨h.body, h.contentType⟩
  pushQuery _ _ _ h := ⟨h.body, h.contentType⟩
  merge d f hf h := by
    obtain ⟨hbody, htype⟩ := hf isBare_empty
    refine ⟨?_, ?_⟩
    · rw [merge, hbody, h.body, Option.or_none]
    · rw [merge, htype, h.contentType, Option.or_none]

end Cursor

namespace Matcher

variable {α β : Type}

/-! ## Values that are read back -/

/-- The conversion writes the value as a text and reads the value back from it. -/
def Regained (c : Conversion String α) (a : α) : Prop :=
  ∃ value, c.unapply a = some value ∧ c.apply value = some a

/-- The codec encodes the value and decodes it again. -/
def Reencoded (codec : BodyCodec α) (a : α) : Prop :=
  ∃ bytes, codec.encode? a = some bytes ∧ codec.decode? bytes = some a

/-- Every part of the value is written, and read back by itself. -/
def Spellable : {α : Type} → Matcher α → α → Prop
  | _, segment c, a => ∃ text, c.unapply a = some text ∧ c.apply text = some a ∧ text ≠ ""
  | _, query _ c, a => Regained c a
  | _, optionalQuery _ c, a => ∀ b ∈ a, Regained c b
  | _, queryOr _ c default, a => a ≠ default → Regained c a
  | _, queryAll _ c, as => ∀ a ∈ as, Regained c a
  | _, form codec, a => Reencoded codec a
  | _, json codec, a => Reencoded codec a
  | _, skip first next, a => first.Spellable a ∧ next.Spellable ()
  | _, take first next, a => first.Spellable a.1 ∧ next.Spellable a.2
  | _, whole inner, a => inner.Spellable a
  | _, map inner c, b => ∃ a, c.unapply b = some a ∧ c.apply a = some b ∧ inner.Spellable a
  | _, choice _ alternative, a => ∃ i,
      (∀ j < i, ((alternative j).print a .empty).1 = .error .unclaimed) ∧ (alternative i).Spellable a
  | _, _, _ => True

section Steps

variable {key : String} {c : Conversion String α} {first : Matcher α} {next : Matcher β}

@[simp] theorem spellable_start (u : Unit) : start.Spellable u := trivial

@[simp] theorem spellable_literal (text : String) : (literal text).Spellable () := trivial

@[simp] theorem spellable_method (m : Http.Method) : (method m).Spellable () := trivial

@[simp] theorem spellable_query {a : α} : (query key c).Spellable a ↔ Regained c a := Iff.rfl

@[simp] theorem spellable_optionalQuery {a : Option α} :
    (optionalQuery key c).Spellable a ↔ ∀ b ∈ a, Regained c b := Iff.rfl

@[simp] theorem spellable_queryOr [DecidableEq α] {a default : α} :
    (queryOr key c default).Spellable a ↔ (a ≠ default → Regained c a) := Iff.rfl

@[simp] theorem spellable_queryAll {as : List α} :
    (queryAll key c).Spellable as ↔ ∀ a ∈ as, Regained c a := Iff.rfl

@[simp] theorem spellable_form {codec : BodyCodec α} {a : α} :
    (form codec).Spellable a ↔ Reencoded codec a := Iff.rfl

@[simp] theorem spellable_json {codec : BodyCodec α} {a : α} :
    (json codec).Spellable a ↔ Reencoded codec a := Iff.rfl

@[simp] theorem spellable_skip {next : Matcher Unit} {a : α} :
    (skip first next).Spellable a ↔ first.Spellable a ∧ next.Spellable () := Iff.rfl

@[simp] theorem spellable_take {p : α × β} :
    (take first next).Spellable p ↔ first.Spellable p.1 ∧ next.Spellable p.2 := Iff.rfl

/-- A case is spelled as what it wraps. -/
@[simp] theorem spellable_case {wrap : α → β} {unwrap : β → Option α} {b : β} :
    (map (whole first) (.case wrap unwrap)).Spellable b ↔
      ∃ a, unwrap b = some a ∧ wrap a = b ∧ first.Spellable a := by
  constructor
  · rintro ⟨a, ha, hwrap, hinner⟩
    exact ⟨a, ha, Option.some.inj hwrap, hinner⟩
  · rintro ⟨a, ha, hwrap, hinner⟩
    exact ⟨a, ha, congrArg some hwrap, hinner⟩

end Steps

/-- The values of a list are written one by one. -/
theorem forall₂_of_regained {c : Conversion String α} {as : List α} (h : ∀ a ∈ as, Regained c a) :
    ∃ values, List.Forall₂ (fun a value => c.unapply a = some value ∧ c.apply value = some a)
      as values := by
  induction as with
  | nil => exact ⟨[], .nil⟩
  | cons a as ih =>
    obtain ⟨value, hvalue⟩ := h a (by simp)
    obtain ⟨values, hvalues⟩ := ih fun b hb => h b (List.mem_cons_of_mem _ hb)
    exact ⟨value :: values, .cons hvalue hvalues⟩

theorem regained_of_forall₂ {c : Conversion String α} {as : List α} {values : List String}
    (h : List.Forall₂ (fun a value => c.unapply a = some value ∧ c.apply value = some a) as values) :
    ∀ a ∈ as, Regained c a := by
  induction h with
  | nil => exact nofun
  | cons hvalue _ ih => exact List.forall_mem_cons.2 ⟨⟨_, hvalue⟩, ih⟩

theorem Spells.spellable {m : Matcher α} {a : α} {f : Cursor} {chain : List Feature}
    (h : m.Spells a f chain) : m.Spellable a := by
  induction h with
  | start | literal | method | rawBody => trivial
  | segment hc ha ht => exact ⟨_, hc, ha, ht⟩
  | query hc ha => exact ⟨_, hc, ha⟩
  | optionalQuery_none => exact nofun
  | optionalQuery_some hc ha =>
    intro b hb
    rw [← Option.mem_some_iff.1 hb]
    exact ⟨_, hc, ha⟩
  | queryOr_default => exact fun hne => absurd rfl hne
  | queryOr_other hne hc ha => exact fun _ => ⟨_, hc, ha⟩
  | queryAll hc => exact regained_of_forall₂ hc
  | form hc ha => exact ⟨_, hc, ha⟩
  | json hc ha => exact ⟨_, hc, ha⟩
  | skip hf hn ihf ihn => exact ⟨ihf, ihn⟩
  | take hf hn ihf ihn => exact ⟨ihf, ihn⟩
  | whole h ih => exact ih
  | map hc hb h ih => exact ⟨_, hc, hb, ih⟩
  | choice i hbefore h ih => exact ⟨i, hbefore, ih⟩

theorem exists_spells_of_spellable {m : Matcher α} {a : α} (h : m.Spellable a) :
    ∃ f chain, m.Spells a f chain := by
  induction m with
  | start => exact ⟨_, _, .start⟩
  | literal text => exact ⟨_, _, .literal text⟩
  | method m => exact ⟨_, _, .method m⟩
  | rawBody => exact ⟨_, _, .rawBody a⟩
  | segment c =>
    obtain ⟨text, hc, ha, ht⟩ := h
    exact ⟨_, _, .segment hc ha ht⟩
  | query key c =>
    obtain ⟨value, hc, ha⟩ := h
    exact ⟨_, _, .query hc ha⟩
  | optionalQuery key c =>
    rcases a with _ | b
    · exact ⟨_, _, .optionalQuery_none⟩
    · obtain ⟨value, hc, ha⟩ := h b rfl
      exact ⟨_, _, .optionalQuery_some hc ha⟩
  | queryOr key c default =>
    by_cases hne : a = default
    · subst hne
      exact ⟨_, _, .queryOr_default⟩
    · obtain ⟨value, hc, ha⟩ := h hne
      exact ⟨_, _, .queryOr_other hne hc ha⟩
  | queryAll key c =>
    obtain ⟨values, hvalues⟩ := forall₂_of_regained h
    exact ⟨_, _, .queryAll hvalues⟩
  | form codec =>
    obtain ⟨bytes, hc, ha⟩ := h
    exact ⟨_, _, .form hc ha⟩
  | json codec =>
    obtain ⟨bytes, hc, ha⟩ := h
    exact ⟨_, _, .json hc ha⟩
  | skip first next ihf ihn =>
    obtain ⟨f, chain, hf⟩ := ihf h.1
    obtain ⟨g, chain', hn⟩ := ihn h.2
    exact ⟨_, _, .skip hf hn⟩
  | take first next ihf ihn =>
    obtain ⟨f, chain, hf⟩ := ihf h.1
    obtain ⟨g, chain', hn⟩ := ihn h.2
    exact ⟨_, _, .take hf hn⟩
  | whole inner ih =>
    obtain ⟨f, chain, hi⟩ := ih h
    exact ⟨f, chain, .whole hi⟩
  | map inner c ih =>
    obtain ⟨b, hc, hb, hinner⟩ := h
    obtain ⟨f, chain, hi⟩ := ih hinner
    exact ⟨f, chain, .map hc hb hi⟩
  | choice count alternative ih =>
    obtain ⟨i, hbefore, halternative⟩ := h
    obtain ⟨f, chain, hi⟩ := ih i halternative
    exact ⟨f, chain, .choice i hbefore hi⟩

/-! ## Cases -/

/-- An alternation spells a value as the first alternative that takes it. -/
theorem spellable_oneOf {ms : List (Matcher α)} {a : α} {inner : Matcher β} {c : Conversion β α}
    (h : ms.find? (·.claims a) = some (map inner c)) :
    (oneOf ms).Spellable a ↔ (map inner c).Spellable a := by
  obtain ⟨hclaims, i, hi, hget, hbefore⟩ := List.find?_eq_some_iff_getElem.1 h
  have hunclaimed : ∀ j < (⟨i, hi⟩ : Fin ms.length),
      ((ms.get j).print a .empty).1 = .error .unclaimed := by
    intro j hj
    have hno := hbefore j hj
    exact print_of_not_claims (by simpa using hno) .empty
  constructor
  · rintro ⟨k, hk, hspellable⟩
    obtain ⟨f, chain, hspells⟩ := exists_spells_of_spellable hspellable
    rcases Nat.lt_trichotomy k i with hlt | heq | hgt
    · have hprint := hunclaimed k hlt
      rw [hspells.print] at hprint
      cases hprint
    · have hki : k = ⟨i, hi⟩ := Fin.ext heq
      rw [hki, List.get_eq_getElem, hget] at hspellable
      exact hspellable
    · have hprint := hk ⟨i, hi⟩ hgt
      rw [List.get_eq_getElem, hget] at hprint
      have hsome : (c.unapply a).isSome = true := hclaims
      rw [unapply_of_print hprint] at hsome
      cases hsome
  · intro hspellable
    refine ⟨⟨i, hi⟩, hunclaimed, ?_⟩
    rw [List.get_eq_getElem, hget]
    exact hspellable

/-! ## Values without a body -/

/-- A value that goes through no body is written without one, or fails without one. -/
theorem isBare_print {m : Matcher α} {a : α} (ha : m.usesBody a = false) :
    (m.print a .empty).2.IsBare := by
  refine print_writes Cursor.isWriting_isBare (fun h => ?_) .empty Cursor.isBare_empty
  rw [ha] at h
  cases h

end Matcher

end Signpost

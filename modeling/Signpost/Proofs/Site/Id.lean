import Mathlib.Tactic.Common
import Signpost.Proofs.Text.Decimal
import Signpost.Site.Id

/-!
# Identifiers and their texts

Which identifiers read back from their own text, and which texts are those of identifiers.

* Numbered identifiers always read back, which is their `LawfulTextForm`.
* `BlogPostId.canonical?_write_iff`: blog posts do unless their slug is empty.
* `InvoiceId.canonical?_write_iff`: invoices do if their text begins with the mark and goes on.
* `Id.parse_eq_ok_iff`, `BlogPostId.parse_eq_ok_iff`, `InvoiceId.parse_eq_ok_iff`: an identifier is read from
  no other text. `BlogPostId.IsAddress`: the texts of blog posts, as numerals and slugs.
* `parse_reads_own_text`: all of this together.
-/

namespace Signpost.Site

instance (kind : Kind) : LawfulTextForm (Id kind) where
  read?_write id := by
    have h : number? (TextForm.write id.number) = some id.number := TextForm.canonical?_write id.number
    show (Id.parse id.text).toOption = some id
    rw [Id.parse, Id.text, h]
    rfl

theorem ok_of_toOption {ε α : Type} {x : Except ε α} {a : α} (h : x.toOption = some a) :
    x = .ok a := by
  cases x with
  | error e => cases h
  | ok b => rw [Option.some.inj h]

/-- A number without sign is written in digits only. -/
theorem toList_write {bits : Nat} (n : Unsigned bits) :
    (TextForm.write n).toList = Decimal.digits n.val.natAbs := by
  show (String.ofList (Decimal.integer n.val)).toList = _
  rw [String.toList_ofList, Decimal.integer, if_neg (Int.not_lt.2 n.lo_le)]

/-- A number is written in the digits of its only numeral. -/
theorem write_eq_iff {number : Unsigned 64} {n : Nat} (hn : number.val = n) {text : String} :
    TextForm.write number = text ↔ Decimal.IsNumeral 1 n text.toList := by
  rw [Decimal.isNumeral_one_iff, ← String.toList_inj, toList_write, hn, Int.natAbs_natCast]
  exact eq_comm

/-- The numbers of identifiers are those below 2^64. -/
theorem exists_number_iff {n : Nat} : (∃ number : Unsigned 64, number.val = n) ↔ n < 2 ^ 64 := by
  have hpow : Int.pow 2 64 - 1 = 18446744073709551615 := rfl
  constructor
  · rintro ⟨number, hn⟩
    have hle := number.le_hi
    omega
  · intro hlt
    exact ⟨⟨n, by omega, by omega⟩, rfl⟩

namespace Id

variable {kind : Kind} {id : Id kind} {text : String}

/-- A numbered identifier is read from its own text only. -/
theorem parse_eq_ok_iff : parse text = .ok id ↔ id.text = text := by
  constructor
  · intro h
    unfold parse at h
    rcases hn : number? text with _ | number
    · simp [hn] at h
    · simp only [hn] at h
      cases h
      exact TextForm.write_of_canonical? hn
  · rintro rfl
    have hn : number? id.text = some id.number := TextForm.canonical?_write id.number
    rw [parse, hn]

end Id

/-! ## Blog posts -/

namespace BlogPostId

/-- A written number holds no dash. -/
theorem dash_notMem_write (n : Unsigned 64) :
    ∀ c ∈ (TextForm.write n).toList, decide (c = '-') = false := by
  intro c hc
  rw [toList_write] at hc
  have hdigit : c.isDigit = true := Decimal.isDigit_of_mem_digits hc
  rw [decide_eq_false_iff_not]
  rintro rfl
  revert hdigit
  decide

theorem cut_write (n : Unsigned 64) :
    cut (· = '-') (TextForm.write n).toList = ((TextForm.write n).toList, none) :=
  cut_of_forall (dash_notMem_write n)

theorem toList_write_slug (n : Unsigned 64) (slug : String) :
    (TextForm.write n ++ "-" ++ slug).toList = (TextForm.write n).toList ++ '-' :: slug.toList := by
  rw [String.toList_append, String.toList_append, List.append_assoc]
  rfl

theorem cut_write_slug (n : Unsigned 64) (slug : String) :
    cut (· = '-') (TextForm.write n ++ "-" ++ slug).toList =
      ((TextForm.write n).toList, some slug.toList) := by
  rw [toList_write_slug]
  exact cut_append_cons (dash_notMem_write n) (by decide) slug.toList

theorem number?_write (n : Unsigned 64) :
    number? (String.ofList (TextForm.write n).toList) = some n := by
  rw [String.ofList_toList]
  exact TextForm.canonical?_write n

/-- A blog post reads back from its text unless its slug is empty. -/
theorem parse_text {id : BlogPostId} (h : id.slug ≠ some "") : parse id.text = .ok id := by
  obtain ⟨n, slug⟩ := id
  cases slug with
  | none =>
    simp only [parse, text, cut_write, number?_write]
    rfl
  | some slug =>
    have hne : slug.toList ≠ [] := fun hnil => h (congrArg some (String.toList_eq_nil_iff.1 hnil))
    obtain ⟨c, cs, hcs⟩ := List.exists_cons_of_ne_nil hne
    have hslug : String.ofList (c :: cs) = slug := by rw [← hcs, String.ofList_toList]
    simp only [parse, text, cut_write_slug, number?_write, hcs, Option.map_some, hslug]

/-- A text that is read has a number before its first dash, and a slug behind the dash if there is one. -/
theorem ok_of_parse {text : String} {id : BlogPostId} (h : parse text = .ok id) :
    number? (String.ofList (cut (· = '-') text.toList).1) = some id.number ∧
      (cut (· = '-') text.toList).2 ≠ some [] ∧
      id.slug = (cut (· = '-') text.toList).2.map String.ofList := by
  unfold parse at h
  generalize cut (· = '-') text.toList = pieces at h ⊢
  obtain ⟨number, slug⟩ := pieces
  rcases slug with _ | _ | ⟨c, cs⟩
  · rcases hn : number? (String.ofList number) with _ | n
    · simp [hn] at h
    · simp only [hn] at h
      cases h
      exact ⟨rfl, nofun, rfl⟩
  · simp at h
  · rcases hn : number? (String.ofList number) with _ | n
    · simp [hn] at h
    · simp only [hn] at h
      cases h
      exact ⟨rfl, nofun, rfl⟩

/-- No text is read as a blog post with an empty slug. -/
theorem slug_ne_of_parse {text : String} {id : BlogPostId} (h : parse text = .ok id) :
    id.slug ≠ some "" := by
  obtain ⟨-, hne, hslug⟩ := ok_of_parse h
  rw [hslug]
  intro hempty
  obtain ⟨cs, hcs, hnil⟩ := Option.map_eq_some_iff.1 hempty
  exact hne (hcs.trans (congrArg some (String.ofList_eq_empty_iff.1 hnil)))

/-- A blog post is written as the text that it was read from. -/
theorem text_of_parse {text : String} {id : BlogPostId} (h : parse text = .ok id) : id.text = text := by
  obtain ⟨hnumber, -, hslug⟩ := ok_of_parse h
  have hcut := append_cut '-' text.toList
  generalize cut (· = '-') text.toList = pieces at hnumber hslug hcut
  obtain ⟨number, slug⟩ := pieces
  have hwrite : (TextForm.write id.number).toList = number := by
    rw [TextForm.write_of_canonical? hnumber, String.toList_ofList]
  rw [← String.toList_inj, ← hcut, BlogPostId.text, hslug]
  cases slug with
  | none => simpa using hwrite
  | some cs => simp [hwrite]

/-- A blog post is read from its own text only, and not if its slug is empty. -/
theorem parse_eq_ok_iff {text : String} {id : BlogPostId} :
    parse text = .ok id ↔ id.text = text ∧ id.slug ≠ some "" :=
  ⟨fun h => ⟨text_of_parse h, slug_ne_of_parse h⟩, fun ⟨htext, hslug⟩ => htext ▸ parse_text hslug⟩

/-- The text is a decimal number, and behind its first dash a slug, if there is one. -/
def IsAddress (n : Nat) : Option String → String → Prop
  | none, text => Decimal.IsNumeral 1 n text.toList
  | some slug, text => slug ≠ "" ∧
    ∃ ds, Decimal.IsNumeral 1 n ds ∧ '-' ∉ ds ∧ text.toList = ds ++ '-' :: slug.toList

/-- The text of a blog post with a number and a slug is their address. -/
theorem parse_eq_ok_iff_isAddress {text : String} {number : Unsigned 64} {n : Nat} (hn : number.val = n)
    {slug : Option String} : parse text = .ok ⟨number, slug⟩ ↔ IsAddress n slug text := by
  rw [parse_eq_ok_iff]
  cases slug with
  | none => exact (and_iff_left nofun).trans (write_eq_iff hn)
  | some slug =>
    have hnumeral := (write_eq_iff hn).1 rfl
    have hdash : '-' ∉ (TextForm.write number).toList := fun h =>
      of_decide_eq_false (dash_notMem_write number _ h) rfl
    constructor
    · rintro ⟨rfl, hslug⟩
      exact ⟨fun h => hslug (congrArg some h), _, hnumeral, hdash, toList_write_slug number slug⟩
    · rintro ⟨hslug, ds, hds, -, hlist⟩
      refine ⟨?_, fun h => hslug (Option.some.inj h)⟩
      show TextForm.write number ++ "-" ++ slug = text
      rw [← String.toList_inj, toList_write_slug, hlist, hds.unique hnumeral]

/-- The blog posts that read back from their text are those without an empty slug. -/
theorem canonical?_write_iff {id : BlogPostId} :
    TextForm.canonical? (TextForm.write id) = some id ↔ id.slug ≠ some "" := by
  rw [TextForm.canonical?_write_iff]
  constructor
  · intro h
    exact slug_ne_of_parse (ok_of_toOption h)
  · intro h
    show (parse id.text).toOption = some id
    rw [parse_text h]
    rfl

end BlogPostId

/-! ## Invoices -/

namespace InvoiceId

theorem parse_eq_ok_iff {text : String} {id : InvoiceId} :
    parse text = .ok id ↔ id.text = text ∧ ∃ rest, rest ≠ "" ∧ text = mark ++ rest := by
  constructor
  · intro h
    unfold parse at h
    split at h
    · rename_i c cs htext
      cases h
      refine ⟨rfl, String.ofList (c :: cs), ?_, ?_⟩
      · intro hnil
        cases String.ofList_eq_empty_iff.1 hnil
      · have hlist : (mark ++ String.ofList (c :: cs)).toList = 'i' :: 'n' :: '_' :: c :: cs := by
          rw [mark, String.toList_append]
          show 'i' :: 'n' :: '_' :: (String.ofList (c :: cs)).toList = 'i' :: 'n' :: '_' :: c :: cs
          rw [String.toList_ofList]
        rw [← String.toList_inj, htext, hlist]
    · cases h
  · rintro ⟨rfl, rest, hrest, htext⟩
    have hne : rest.toList ≠ [] := fun hnil => hrest (String.toList_eq_nil_iff.1 hnil)
    obtain ⟨c, cs, hcs⟩ := List.exists_cons_of_ne_nil hne
    have hlist : id.text.toList = 'i' :: 'n' :: '_' :: c :: cs := by
      rw [htext, mark, String.toList_append, hcs]
      rfl
    rw [parse, hlist]
    rfl

/-- The invoices that read back from their text are those whose text begins with the mark and goes on. -/
theorem canonical?_write_iff {id : InvoiceId} :
    TextForm.canonical? (TextForm.write id) = some id ↔ ∃ rest, rest ≠ "" ∧ id.text = mark ++ rest := by
  rw [TextForm.canonical?_write_iff]
  constructor
  · intro h
    exact (parse_eq_ok_iff.1 (ok_of_toOption h)).2
  · intro h
    show (parse id.text).toOption = some id
    rw [parse_eq_ok_iff.2 ⟨rfl, h⟩]
    rfl

end InvoiceId

/-! ## Texts of identifiers -/

/-- Each identifier has one text. A numbered identifier is read from the decimal number of its number, which is
below 2^64; a blog post from its address; an invoice from the mark and something behind it. What is read is
written as the same text, and every identifier reads back from its own text, except blog posts with an empty
slug and invoices without the mark. -/
theorem parse_reads_own_text :
    (∀ (kind : Kind) (text : String),
      (∀ n : Nat, (∃ id : Id kind, id.number.val = n ∧ Id.parse text = .ok id) ↔
        n < 2 ^ 64 ∧ Decimal.IsNumeral 1 n text.toList) ∧
      ∀ id : Id kind, Id.parse text = .ok id ↔ id.text = text) ∧
    (∀ text : String,
      (∀ (n : Nat) (slug : Option String),
        (∃ number : Unsigned 64, number.val = n ∧ BlogPostId.parse text = .ok ⟨number, slug⟩) ↔
          n < 2 ^ 64 ∧ BlogPostId.IsAddress n slug text) ∧
      ∀ id, BlogPostId.parse text = .ok id ↔ id.text = text ∧ id.slug ≠ some "") ∧
    ∀ text : String,
      ((∃ id, InvoiceId.parse text = .ok id) ↔ ∃ rest, rest ≠ "" ∧ text = "in_" ++ rest) ∧
      ∀ id, InvoiceId.parse text = .ok id ↔
        id.text = text ∧ ∃ rest, rest ≠ "" ∧ id.text = "in_" ++ rest := by
  refine ⟨fun kind text => ⟨fun n => ?_, fun id => Id.parse_eq_ok_iff⟩,
    fun text => ⟨fun n slug => ?_, fun id => BlogPostId.parse_eq_ok_iff⟩, fun text => ⟨?_, fun id => ?_⟩⟩
  · rw [← exists_number_iff]
    constructor
    · rintro ⟨id, hn, hid⟩
      exact ⟨⟨id.number, hn⟩, (write_eq_iff hn).1 (Id.parse_eq_ok_iff.1 hid)⟩
    · rintro ⟨⟨number, hn⟩, htext⟩
      exact ⟨⟨number⟩, hn, Id.parse_eq_ok_iff.2 ((write_eq_iff hn).2 htext)⟩
  · rw [← exists_number_iff]
    constructor
    · rintro ⟨number, hn, hpost⟩
      exact ⟨⟨number, hn⟩, (BlogPostId.parse_eq_ok_iff_isAddress hn).1 hpost⟩
    · rintro ⟨⟨number, hn⟩, haddress⟩
      exact ⟨number, hn, (BlogPostId.parse_eq_ok_iff_isAddress hn).2 haddress⟩
  · constructor
    · rintro ⟨id, hid⟩
      exact (InvoiceId.parse_eq_ok_iff.1 hid).2
    · intro htext
      exact ⟨⟨text⟩, InvoiceId.parse_eq_ok_iff.2 ⟨rfl, htext⟩⟩
  · rw [InvoiceId.parse_eq_ok_iff]
    constructor
    · rintro ⟨rfl, hmark⟩
      exact ⟨rfl, hmark⟩
    · rintro ⟨rfl, hmark⟩
      exact ⟨rfl, hmark⟩

end Signpost.Site

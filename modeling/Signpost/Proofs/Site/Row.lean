import Mathlib.Algebra.Group.Nat.Defs
import Mathlib.Data.List.Forall2
import Signpost.Proofs.Site.Id
import Signpost.Site.Plan
import Signpost.Cursor.Basic

/-!
# Rows of a table of pages

A row has a method, what may stand at each place of the path, and perhaps a field that the query must have.

* `Cell.Accepts`, `Row.Fits`: the texts of a cell and the requests of a row.
* `isSome_id`, `isSome_post` and so on: the texts that a conversion reads are those of a cell.
* `Row.Listed`: the requests of some rows. `listed_iff_tail`: rows that begin with the same cell are told
  apart by what stands behind it.
-/

namespace Signpost.Site

/-! ## Cells -/

/-- What may stand at one place of a path, or as the value of a field. -/
inductive Cell where
  | text (text : String)
  /-- One of some texts. -/
  | among (texts : List String)
  /-- The decimal digits of a number below `bound`, without leading zeros. -/
  | number (bound : Nat)
  /-- The digits of a number below 2^64, and perhaps a slug behind a dash. -/
  | post
  /-- The mark of invoices, and something behind it. -/
  | invoice
  | any

namespace Cell

/-- The decimal digits of a number below 2^64. -/
def id : Cell := number (2 ^ 64)

/-- The texts of a cell. -/
def Accepts : Cell → String → Prop
  | text t, s => s = t
  | among ts, s => s ∈ ts
  | number bound, s => ∃ n < bound, s = toString n
  | post, s => ∃ n < 2 ^ 64, s = toString n ∨ ∃ slug, slug ≠ "" ∧ s = toString n ++ "-" ++ slug
  | invoice, s => ∃ rest, rest ≠ "" ∧ s = "in_" ++ rest
  | any, _ => True

@[simp] theorem accepts_text {t s : String} : (text t).Accepts s ↔ s = t := .rfl

@[simp] theorem accepts_any {s : String} : any.Accepts s := trivial

end Cell

/-! ## Conversions -/

variable {α : Type} {s : String}

theorem isSome_canonical?_iff [TextForm α] : (TextForm.canonical? s : Option α).isSome = true ↔
    ∃ a : α, s = TextForm.write a ∧ TextForm.canonical? (TextForm.write a) = some a := by
  rw [Option.isSome_iff_exists]
  constructor
  · rintro ⟨a, ha⟩
    have hs := TextForm.write_of_canonical? ha
    exact ⟨a, hs.symm, hs ▸ ha⟩
  · rintro ⟨a, rfl, ha⟩
    exact ⟨a, ha⟩

/-- Numbers without sign are written like natural numbers. -/
theorem write_unsigned {bits : Nat} (a : Unsigned bits) : TextForm.write a = toString a.val.toNat := by
  have ha : ¬a.val < 0 := Int.not_lt.2 a.lo_le
  show String.ofList (Decimal.integer a.val) = Nat.repr a.val.toNat
  rw [Decimal.integer, if_neg ha, Decimal.digits, Nat.repr]
  congr 2
  omega

theorem exists_unsigned_iff {bits : Nat} {P : String → Prop} :
    (∃ a : Unsigned bits, P (TextForm.write a)) ↔ ∃ n < 2 ^ bits, P (toString n) := by
  have hpow : ((2 ^ bits : Nat) : Int) = Int.pow 2 bits := by
    rw [Int.natCast_pow]; rfl
  constructor
  · rintro ⟨a, ha⟩
    refine ⟨a.val.toNat, ?_, write_unsigned a ▸ ha⟩
    have hlo := a.lo_le
    have hhi := a.le_hi
    omega
  · rintro ⟨n, hn, h⟩
    refine ⟨⟨n, by omega, by omega⟩, ?_⟩
    rw [write_unsigned]
    exact h

theorem isSome_number {bits : Nat} :
    ((Conversion.text (Unsigned bits)).apply s).isSome = true ↔ (Cell.number (2 ^ bits)).Accepts s := by
  show (TextForm.canonical? s : Option (Unsigned bits)).isSome = true ↔ _
  simp only [isSome_canonical?_iff, TextForm.canonical?_write, and_true]
  exact exists_unsigned_iff

theorem isSome_id {kind : Kind} :
    ((Conversion.text (Id kind)).apply s).isSome = true ↔ Cell.id.Accepts s := by
  show (TextForm.canonical? s : Option (Id kind)).isSome = true ↔ _
  simp only [isSome_canonical?_iff, TextForm.canonical?_write, and_true]
  refine .trans ?_ exists_unsigned_iff
  exact ⟨fun ⟨id, hid⟩ => ⟨id.number, hid⟩, fun ⟨n, hn⟩ => ⟨⟨n⟩, hn⟩⟩

theorem isSome_post : ((Conversion.text BlogPostId).apply s).isSome = true ↔ Cell.post.Accepts s := by
  show (TextForm.canonical? s : Option BlogPostId).isSome = true ↔ _
  simp only [isSome_canonical?_iff, BlogPostId.canonical?_write_iff]
  refine .trans ?_ (exists_unsigned_iff (P := fun n => s = n ∨ ∃ slug, slug ≠ "" ∧ s = n ++ "-" ++ slug))
  constructor
  · rintro ⟨⟨n, _ | slug⟩, rfl, hslug⟩
    · exact ⟨n, .inl rfl⟩
    · exact ⟨n, .inr ⟨slug, fun h => hslug (congrArg some h), rfl⟩⟩
  · rintro ⟨n, rfl | ⟨slug, hslug, rfl⟩⟩
    · exact ⟨⟨n, none⟩, rfl, nofun⟩
    · exact ⟨⟨n, some slug⟩, rfl, fun h => hslug (Option.some.inj h)⟩

theorem isSome_invoice : ((Conversion.text InvoiceId).apply s).isSome = true ↔ Cell.invoice.Accepts s := by
  show (TextForm.canonical? s : Option InvoiceId).isSome = true ↔ _
  simp only [isSome_canonical?_iff, InvoiceId.canonical?_write_iff]
  constructor
  · rintro ⟨id, rfl, hid⟩
    exact hid
  · intro hs
    exact ⟨⟨s⟩, rfl, hs⟩

theorem isSome_enumeration [DecidableEq α] {table : List (String × α)} :
    ((Conversion.enumeration table).apply s).isSome = true ↔ (Cell.among (table.map (·.1))).Accepts s := by
  show ((table.find? (·.1 = s)).map (·.2)).isSome = true ↔ s ∈ table.map (·.1)
  rw [Option.isSome_map, List.find?_isSome]
  simp

theorem isSome_billing :
    (Billing.conversion.apply s).isSome = true ↔ (Cell.among ["monthly", "yearly"]).Accepts s :=
  isSome_enumeration

theorem isSome_lane :
    (Lane.conversion.apply s).isSome = true ↔ (Cell.among ["personal", "team"]).Accepts s :=
  isSome_enumeration

theorem isSome_giftPlan : (GiftPlan.conversion.apply s).isSome = true ↔
    (Cell.among ["threeMonths", "sixMonths", "year"]).Accepts s :=
  isSome_enumeration

theorem isSome_text : ((Conversion.text String).apply s).isSome = true :=
  Option.isSome_iff_exists.2 ⟨s, TextForm.canonical?_write s⟩

/-! ## Rows -/

/-- The method and the path of a page, and a query key with what its first value must be. -/
structure Row where
  method : Http.Method
  path : List Cell := []
  field : Option (String × Cell) := none

namespace Row

/-- The request has the method of the row, its path place by place, and its field. A field with any value is
there when its key is, by `Query.WellFormed.exists_first?_iff`. -/
structure Fits (row : Row) (d : Cursor) : Prop where
  method : d.method = row.method
  path : List.Forall₂ Cell.Accepts row.path d.path
  field : ∀ key cell, row.field = some (key, cell) →
    ∃ value, d.query.first? key = some value ∧ cell.Accepts value

/-- The row behind its first cell. -/
def tail (row : Row) : Row := { row with path := row.path.tail }

variable {d : Cursor}

theorem fits_iff {row : Row} : row.Fits d ↔ d.method = row.method ∧
    List.Forall₂ Cell.Accepts row.path d.path ∧ ∀ key cell, row.field = some (key, cell) →
      ∃ value, d.query.first? key = some value ∧ cell.Accepts value :=
  ⟨fun h => ⟨h.method, h.path, h.field⟩, fun h => ⟨h.1, h.2.1, h.2.2⟩⟩

theorem forall₂_cons_iff {cell : Cell} {cells : List Cell} {path : List String} :
    List.Forall₂ Cell.Accepts (cell :: cells) path ↔
      ∃ text rest, path = text :: rest ∧ cell.Accepts text ∧ List.Forall₂ Cell.Accepts cells rest := by
  constructor
  · intro h
    cases h with
    | cons htext hrest => exact ⟨_, _, rfl, htext, hrest⟩
  · rintro ⟨text, rest, rfl, htext, hrest⟩
    exact .cons htext hrest

/-- The request fits one of the rows. -/
def Listed (rows : List Row) (d : Cursor) : Prop := ∃ row ∈ rows, row.Fits d

@[simp] theorem listed_nil : ¬Listed [] d := by simp [Listed]

@[simp] theorem listed_cons {row : Row} {rows : List Row} :
    Listed (row :: rows) d ↔ row.Fits d ∨ Listed rows d := by
  simp [Listed]

@[simp] theorem listed_append {rows more : List Row} :
    Listed (rows ++ more) d ↔ Listed rows d ∨ Listed more d := by
  simp [Listed, or_and_right, exists_or]

/-- Of rows with the same first cell, a request fits the one whose tail fits behind its first segment. -/
theorem listed_iff_tail {rows : List Row} {c : Cell} (h : ∀ row ∈ rows, row.path.head? = some c) :
    Listed rows d ↔ ∃ text path, d.path = text :: path ∧ c.Accepts text ∧
      Listed (rows.map tail) { d with path } := by
  constructor
  · rintro ⟨row, hrow, hfits⟩
    obtain ⟨cells, hcells⟩ := List.head?_eq_some_iff.1 (h row hrow)
    have hpath := hfits.path
    rw [hcells, forall₂_cons_iff] at hpath
    obtain ⟨text, path, hd, htext, hrest⟩ := hpath
    refine ⟨text, path, hd, htext, row.tail, List.mem_map_of_mem hrow, hfits.method, ?_, hfits.field⟩
    rwa [tail, hcells]
  · rintro ⟨text, path, hd, htext, _, htail, hfits⟩
    obtain ⟨row, hrow, rfl⟩ := List.mem_map.1 htail
    obtain ⟨cells, hcells⟩ := List.head?_eq_some_iff.1 (h row hrow)
    have hrest := hfits.path
    rw [tail, hcells] at hrest
    refine ⟨row, hrow, hfits.method, ?_, hfits.field⟩
    rw [hcells, forall₂_cons_iff]
    exact ⟨text, path, hd, htext, hrest⟩

end Row

end Signpost.Site

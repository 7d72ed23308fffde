import Signpost.Ranged
import Signpost.Text.Pieces

/-!
# Identifiers of the site

Each identifier has one text form; any other spelling is refused.

* `Id kind` is a number without sign and leading zeros.
* `BlogPostId` is a number, and a slug after the first dash.
* `InvoiceId` begins with `in_`, which keeps it apart from the other pages below the invoices.
-/

namespace Signpost.Site

/-- Why a text is no identifier. -/
inductive IdError where
  | invalidNumber (text : String)
  | invalidInvoice (text : String)
deriving DecidableEq

namespace IdError

def message : IdError → String
  | invalidNumber text => "invalid numeric id: " ++ text
  | invalidInvoice text => "invoice id must start with 'in_': " ++ text

end IdError

/-- The canonical decimal number of a text. -/
def number? (text : String) : Option (Unsigned 64) := TextForm.canonical? text

/-! ## Numbered identifiers -/

/-- What a numbered identifier names. -/
inductive Kind where
  | episode
  | gift
  | teamInvite
  | user
deriving DecidableEq

/-- A numbered identifier. -/
structure Id (kind : Kind) where
  number : Unsigned 64
deriving DecidableEq

abbrev EpisodeId := Id .episode
abbrev GiftId := Id .gift
abbrev TeamInviteId := Id .teamInvite
abbrev UserId := Id .user

namespace Id

variable {kind : Kind}

def text (id : Id kind) : String := TextForm.write id.number

def parse (text : String) : Except IdError (Id kind) :=
  match number? text with
  | some number => .ok ⟨number⟩
  | none => .error (.invalidNumber text)

instance : TextForm (Id kind) := ⟨text, fun t => (parse t).toOption⟩

end Id

/-! ## Blog posts -/

/-- The identifier of a blog post, with the slug of its address. -/
structure BlogPostId where
  number : Unsigned 64
  slug : Option String := none
deriving DecidableEq

namespace BlogPostId

def text (id : BlogPostId) : String :=
  match id.slug with
  | some slug => TextForm.write id.number ++ "-" ++ slug
  | none => TextForm.write id.number

/-- The identifier of a text. The slug may hold dashes, but not be empty. -/
def parse (text : String) : Except IdError BlogPostId :=
  let (number, slug) := cut (· = '-') text.toList
  match number? (String.ofList number), slug with
  | _, some [] => .error (.invalidNumber text)
  | some number, slug => .ok ⟨number, slug.map String.ofList⟩
  | none, _ => .error (.invalidNumber (String.ofList number))

instance : TextForm BlogPostId := ⟨text, fun t => (parse t).toOption⟩

end BlogPostId

/-! ## Invoices -/

/-- The identifier of an invoice at the billing provider. Values that were not parsed may hold any text. -/
structure InvoiceId where
  text : String
deriving DecidableEq

namespace InvoiceId

/-- What every parsed invoice identifier begins with. -/
def mark : String := "in_"

def parse (text : String) : Except IdError InvoiceId :=
  match text.toList with
  | 'i' :: 'n' :: '_' :: _ :: _ => .ok ⟨text⟩
  | _ => .error (.invalidInvoice text)

instance : TextForm InvoiceId := ⟨InvoiceId.text, fun t => (parse t).toOption⟩

end InvoiceId

end Signpost.Site

import Signpost.Body.Layout
import Signpost.Form.Reader
import Signpost.Form.Writer
import Signpost.Json.Reader
import Signpost.Json.Writer

/-!
# Records inside bodies

A record is a value with named fields. A field may be left out when it is written, and may have a value
when it is missing.

* `Field.required`, `defaulted`, `optional` and `list` are the kinds of fields.
* `Record.nil` and `Record.cons` list the fields of a record, `Record.map` gives the record its type.
* `Record.layout` writes a record as an object or as form fields. It reads objects with other members and
  form fields with other names, too, but a name of the record must not stand twice. An array holds the
  fields in order, and fields at its end may be missing.
* `Record.json` and `Record.form` are the whole bodies.
-/

namespace Signpost

variable {α β : Type}

/-- A named field: how it is written, if it is, how it is read, and its value when it is missing. -/
structure Field (α : Type) where
  name : String
  toJson : α → Option Json
  ofJson? : Json → Option α
  toForm : α → Option Form.Node
  ofForm? : Form.Node → Option α
  missing : Option α

namespace Field

/-- A field that is always there. -/
def required (name : String) (layout : Layout α) : Field α where
  name
  toJson a := some (layout.toJson a)
  ofJson? := layout.ofJson?
  toForm a := some (layout.toForm a)
  ofForm? := layout.ofForm?
  missing := none

/-- A field that is always written and may be missing. -/
def defaulted (name : String) (layout : Layout α) (value : α) : Field α :=
  { required name layout with missing := some value }

/-- A field that may be empty. An empty one is not written; `null` and an empty form text are read as
empty. -/
def optional (name : String) (layout : Layout α) : Field (Option α) where
  name
  toJson a := a.map layout.toJson
  ofJson?
    | .null => some none
    | json => (layout.ofJson? json).map some
  toForm a := a.map layout.toForm
  ofForm?
    | .flat "" => some none
    | node => (layout.ofForm? node).map some
  missing := some none

/-- A list of texts that is not written when it is empty. -/
def list (name : String) : Field (List String) where
  name
  toJson ts := if ts = [] then none else some (Layout.texts.toJson ts)
  ofJson? := Layout.texts.ofJson?
  toForm ts := if ts = [] then none else some (Layout.texts.toForm ts)
  ofForm? := Layout.texts.ofForm?
  missing := some []

end Field

/-- The fields of a record. Reading looks each field up by its name, or takes the items of an array in
order. -/
structure Record (α : Type) where
  names : List String
  toJson : α → List (String × Json)
  ofMembers? : List (String × Json) → Option α
  ofItems? : List Json → Option α
  toForm : α → List (String × Form.Node)
  ofFields? : List (String × Form.Node) → Option α

namespace Record

/-- The record without fields. -/
def nil : Record Unit where
  names := []
  toJson _ := []
  ofMembers? _ := some ()
  ofItems? items := if items.isEmpty then some () else none
  toForm _ := []
  ofFields? _ := some ()

/-- The value of a field among named ones, or its value when it is missing. -/
def look {κ : Type} (f : Field α) (read : κ → Option α) (entries : List (String × κ)) : Option α :=
  match entries.find? (·.1 = f.name) with
  | some (_, entry) => read entry
  | none => f.missing

/-- A field in front of others. -/
def cons (f : Field α) (rest : Record β) : Record (α × β) where
  names := f.name :: rest.names
  toJson p := ((f.toJson p.1).map fun json => (f.name, json)).toList ++ rest.toJson p.2
  ofMembers? members :=
    (look f f.ofJson? members).bind fun a => (rest.ofMembers? members).map fun b => (a, b)
  ofItems?
    | [] => f.missing.bind fun a => (rest.ofItems? []).map fun b => (a, b)
    | item :: items => (f.ofJson? item).bind fun a => (rest.ofItems? items).map fun b => (a, b)
  toForm p := ((f.toForm p.1).map fun node => (f.name, node)).toList ++ rest.toForm p.2
  ofFields? fields :=
    (look f f.ofForm? fields).bind fun a => (rest.ofFields? fields).map fun b => (a, b)

/-- The same fields for another type. -/
def map (r : Record α) (make : α → β) (parts : β → α) : Record β where
  names := r.names
  toJson b := r.toJson (parts b)
  ofMembers? members := (r.ofMembers? members).map make
  ofItems? items := (r.ofItems? items).map make
  toForm b := r.toForm (parts b)
  ofFields? fields := (r.ofFields? fields).map make

/-! ## Layout -/

/-- The members of an object with the texts of their names. -/
def named? (members : List (Bytes × Json)) : Option (List (String × Json)) :=
  members.mapM fun (key, json) => (Json.textOf? key).map fun name => (name, json)

/-- No name of the record stands twice. -/
def isUnambiguous {κ : Type} (r : Record α) (entries : List (String × κ)) : Bool :=
  r.names.all fun name => entries.countP (·.1 = name) ≤ 1

/-- The record of some form fields. The fields with other names must be sound. -/
def ofEntries? (r : Record α) (entries : List (String × Form.Node)) : Option α :=
  if r.isUnambiguous entries && Form.Node.areSound (entries.filter fun e => !r.names.contains e.1) then
    r.ofFields? entries
  else none

/-- A record as a value inside a body. Numbered positions count as fields named by their numbers. -/
def layout (r : Record α) : Layout α where
  toJson a := .object ((r.toJson a).map fun (name, json) => (Json.escape name.toList, json))
  ofJson?
    | .object members =>
      (named? members).bind fun entries => if r.isUnambiguous entries then r.ofMembers? entries else none
    | .array items => r.ofItems? items
    | _ => none
  toForm a := .fields (r.toForm a)
  ofForm?
    | .fields entries => r.ofEntries? entries
    | .positions entries =>
      r.ofEntries? (entries.map fun (index, node) => (String.ofList (Decimal.digits index), node))
    | _ => none

end Record

/-! ## Bodies -/

/-- How the values of a type are written as a whole body, and how they are read. Both may refuse. -/
structure BodyCodec (α : Type) where
  encode? : α → Option Bytes
  decode? : Bytes → Option α

namespace BodyCodec

/-- Every value that is written reads back from its own body. -/
def Faithful (c : BodyCodec α) : Prop :=
  ∀ a bytes, c.encode? a = some bytes → c.decode? bytes = some a

end BodyCodec

namespace Record

/-- A record as a JSON document. -/
def json (r : Record α) : BodyCodec α where
  encode? a := some (r.layout.toJson a).render
  decode? bytes := (Json.parse? bytes).bind r.layout.ofJson?

/-- A record as a form. -/
def form (r : Record α) : BodyCodec α where
  encode? a := some (Form.render (r.layout.toForm a))
  decode? bytes := (Form.parse? bytes).bind r.layout.ofForm?

end Record

end Signpost

import Signpost.Form.Node
import Signpost.Json.Text
import Signpost.Ranged

/-!
# Values inside bodies

A layout says how the values of a type stand inside a body, as JSON and in a form.

* `ofTextForm`: a text, in both. `ranged`: a number in JSON and its digits in a form.
* `bool`: a JSON truth value, and `true` or `false` in a form.
* `choice`: one of some names. Instead of the name, JSON may hold an object whose one member has that
  name and the value `null`, and a form fields of which the first in order has that name.
* `texts`: a list of texts. In a form its order is that of the positions, with or without gaps.
-/

namespace Signpost

/-- How a type is written inside JSON and form bodies, and how it is read. -/
structure Layout (α : Type) where
  toJson : α → Json
  ofJson? : Json → Option α
  toForm : α → Form.Node
  ofForm? : Form.Node → Option α

namespace Layout

/-- The text of a node that is one. -/
def flat? : Form.Node → Option String
  | .flat text => some text
  | _ => none

/-- A text. -/
def text : Layout String := ⟨Json.ofText, Json.text?, .flat, flat?⟩

/-- The text form of a type. -/
def ofTextForm (α : Type) [TextForm α] : Layout α where
  toJson a := .ofText (TextForm.write a)
  ofJson? json := json.text?.bind TextForm.read?
  toForm a := .flat (TextForm.write a)
  ofForm? node := (flat? node).bind TextForm.read?

/-- A truth value. -/
def bool : Layout Bool where
  toJson := .bool
  ofJson?
    | .bool b => some b
    | _ => none
  toForm b := .flat (TextForm.write b)
  ofForm? node := (flat? node).bind TextForm.read?

/-- An integer of a range. -/
def ranged (lo hi : Int) : Layout (Ranged lo hi) where
  toJson n := .ofInt n.val
  ofJson? json := json.int?.bind Ranged.ofInt?
  toForm n := .flat (TextForm.write n)
  ofForm? node := (flat? node).bind TextForm.read?

/-- The first key of some fields in the order of texts. -/
def firstKey? : List (String × Form.Node) → Option String
  | [] => none
  | (key, _) :: es =>
    match firstKey? es with
    | some other => if other < key then some other else some key
    | none => some key

/-- One of some names. -/
def choice (name : α → String) (ofName? : String → Option α) : Layout α where
  toJson a := .ofText (name a)
  ofJson?
    | .text written => (Json.textOf? written).bind ofName?
    | .object [(key, .null)] => (Json.textOf? key).bind ofName?
    | _ => none
  toForm a := .flat (name a)
  ofForm?
    | .flat text => ofName? text
    | .fields es => (firstKey? es).bind ofName?
    | _ => none

/-- The numbered positions of some nodes. -/
def numbered (nodes : List Form.Node) : List (Nat × Form.Node) :=
  nodes.zipIdx.map fun (node, index) => (index, node)

/-- A list of texts. -/
def texts : Layout (List String) where
  toJson ts := .array (ts.map .ofText)
  ofJson?
    | .array items => items.mapM Json.text?
    | _ => none
  toForm ts := .positions (numbered (ts.map .flat))
  ofForm?
    | .items ts => some ts
    | .positions es => (es.mergeSort fun a b => a.1 ≤ b.1).mapM fun (_, node) => flat? node
    | _ => none

end Layout

end Signpost

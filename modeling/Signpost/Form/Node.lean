/-!
# Form trees

A form body is a tree. Its leaves are texts; a node holds named fields, numbered positions or items in
the order in which they came. A place that is filled twice, or filled in two ways, is invalid.

* `Node.add` puts a text at the end of a chain of parts.
* `Node.isSound` holds of a tree without invalid places.
-/

namespace Signpost.Form

/-- A form tree. -/
inductive Node where
  | flat (text : String)
  | fields (entries : List (String × Node))
  | positions (entries : List (Nat × Node))
  | items (texts : List String)
  | invalid

/-- One step from a node to a place below it. -/
inductive Part where
  | name (key : String)
  | position (index : Nat)
  | append
deriving DecidableEq

namespace Node

variable {κ : Type} [DecidableEq κ]

/-- Changes the entry of a key, or adds one at the end; `change` is given the node that is there. -/
def update (key : κ) (change : Option Node → Option Node) :
    List (κ × Node) → Option (List (κ × Node))
  | [] => (change none).map fun node => [(key, node)]
  | (k, node) :: es =>
    if k = key then (change (some node)).map fun node => (k, node) :: es
    else (update key change es).map ((k, node) :: ·)

/-- Puts a text at the place that the parts lead to. A place that is filled already, or of another
kind, becomes invalid; there is no tree if the parts go on below such a place. -/
def add (text : String) : List Part → Option Node → Option Node
  | [], none => some (flat text)
  | [], some _ => some invalid
  | part :: parts, node =>
    match part, node with
    | .name key, none => (update key (add text parts) []).map fields
    | .name key, some (fields es) => (update key (add text parts) es).map fields
    | .position index, none => (update index (add text parts) []).map positions
    | .position index, some (positions es) => (update index (add text parts) es).map positions
    | .append, none => if parts = [] then some (items [text]) else none
    | .append, some (items texts) => if parts = [] then some (items (texts ++ [text])) else none
    | _, some _ => if parts = [] then some invalid else none

mutual

/-- No place of the tree is invalid. -/
def isSound : Node → Bool
  | flat _ => true
  | fields es => areSound es
  | positions es => areSoundAt es
  | items _ => true
  | invalid => false

/-- No place of the named fields is invalid. -/
def areSound : List (String × Node) → Bool
  | [] => true
  | (_, node) :: es => node.isSound && areSound es

/-- No place of the numbered positions is invalid. -/
def areSoundAt : List (Nat × Node) → Bool
  | [] => true
  | (_, node) :: es => node.isSound && areSoundAt es

end

end Node

end Signpost.Form

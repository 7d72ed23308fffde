import Signpost.Form.Node
import Signpost.Query.Urlencoded
import Signpost.Text.Decimal

/-!
# Writing form bodies

The texts of a tree in order, each with the bracketed parts that lead to it: `a[b]=text` for a field,
`a[0]=text` for a position.

* `Form.render` writes a tree. A node without texts below it writes nothing.
-/

namespace Signpost.Form

/-- The written form of a part below the root. -/
def bracketed (inner : List Char) : List Char := '[' :: (inner ++ [']'])

mutual

/-- The pairs of a tree, whose key so far is `key`. -/
def Node.pairs (key : List Char) : Node → List (List Char)
  | .flat text => [key ++ '=' :: Urlencoded.encode text.toList]
  | .fields es => fieldPairs key es
  | .positions es => positionPairs key es
  | .items texts => texts.map fun text => key ++ bracketed [] ++ '=' :: Urlencoded.encode text.toList
  | .invalid => []

/-- The pairs of named fields. -/
def fieldPairs (key : List Char) : List (String × Node) → List (List Char)
  | [] => []
  | (name, node) :: es =>
    node.pairs (key ++ bracketed (Urlencoded.encode name.toList)) ++ fieldPairs key es

/-- The pairs of numbered positions. -/
def positionPairs (key : List Char) : List (Nat × Node) → List (List Char)
  | [] => []
  | (index, node) :: es =>
    node.pairs (key ++ bracketed (Decimal.digits index)) ++ positionPairs key es

end

/-- The body of a tree. The names at the root stand without brackets. -/
def render (root : Node) : Bytes :=
  let pairs :=
    match root with
    | .fields es => es.flatMap fun (name, node) => node.pairs (Urlencoded.encode name.toList)
    | _ => []
  Utf8.encode (List.intersperse ['&'] pairs).flatten

end Signpost.Form

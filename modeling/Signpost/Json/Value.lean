import Signpost.Text.Utf8

/-!
# JSON values

A JSON value as it is written. Texts and numbers are kept as they stand in the document, since a value
that nobody asks for need not stand for anything.
-/

namespace Signpost

/-- A JSON value. A text is what stands between its quotes. -/
inductive Json where
  | null
  | bool (value : Bool)
  | number (written : Bytes)
  | text (written : Bytes)
  | array (items : List Json)
  | object (members : List (Bytes × Json))

end Signpost

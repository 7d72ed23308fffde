import Signpost.Cursor.Basic
import Signpost.Http.Uri
import Signpost.Query.Urlencoded

/-!
# Cursors and uris

* `Cursor.pathString` writes path and query, segments and fields with their own escapes.
* `Cursor.ofUri` reads them back. Segments are the non-empty pieces between slashes, unescaped after
  the path is split, so an escaped slash never splits a segment.
-/

namespace Signpost.Cursor

/-- A character that stands in a written segment as it is: no control character, none outside
ASCII, and no mark that ends a segment, begins an escape or may not stand in a path. -/
def isSegmentChar (c : Char) : Bool :=
  0x20 ≤ c.toNat && c.toNat < 0x7F && !" \"#<>`?\x7b\x7d/%".toList.contains c

/-- A written segment. -/
def escapeSegment (segment : String) : List Char := Percent.escape isSegmentChar segment.toList

/-- The written path: each segment after a slash, or one slash when there is no segment. -/
def pathText (path : List String) : List Char :=
  match path.flatMap fun segment => '/' :: escapeSegment segment with
  | [] => ['/']
  | cs => cs

/-- The written query, with its question mark; nothing when there are no fields. -/
def queryText (query : Query) : List Char :=
  if query.groups.isEmpty then [] else '?' :: Urlencoded.render query.pairs

/-- Path and query of the cursor as a uri. -/
def pathString (d : Cursor) : String := String.ofList (pathText d.path ++ queryText d.query)

/-! ## Reading -/

/-- The segment that a written one stands for. -/
def readSegment (raw : List Char) : Except UriError String :=
  match Percent.decodeText? raw with
  | some cs => .ok (String.ofList cs)
  | none => .error (.invalidSegment (String.ofList raw))

/-- The segments of a written path. -/
def readPath (path : String) : Except UriError (List String) :=
  ((pieces (· = '/') path.toList).filter (· ≠ [])).mapM readSegment

/-- The query of a written one. -/
def readQuery (query : Option String) : Query :=
  .ofPairs (Urlencoded.parse ((query.getD "").toList))

/-- The cursor of a method and a uri, or the first segment that is not UTF-8. -/
def ofParts (method : Http.Method) (uri : Http.Uri) : Except UriError Cursor :=
  match readPath uri.path with
  | .ok path => .ok { method? := some method, path, query := readQuery uri.query }
  | .error e => .error e

/-- The cursor of a method and the text of a uri. -/
def ofUri (method : Http.Method) (text : String) : Except UriError Cursor :=
  match Http.Uri.ofText? text with
  | some uri => ofParts method uri
  | none => .error .invalidUri

end Signpost.Cursor

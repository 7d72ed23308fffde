import Signpost.Http.MediaType
import Signpost.Http.Method
import Signpost.Query.Groups
import Signpost.Text.Utf8

/-!
# Cursors

A cursor is one request as matchers see it: a method, path segments, query fields, a body and its
media type. Reading takes features away from a cursor, writing adds them to one.

* `Cursor.merge` adds a written fragment: its path and query behind, its method, body and media
  type in place of the others where the fragment has them.
* `Cursor.agrees` compares cursors, whose media types need only agree.
-/

namespace Signpost

/-- Why the uri of a request cannot be split into segments and fields. -/
inductive UriError where
  | invalidUri
  | invalidSegment (raw : String)
deriving DecidableEq

namespace UriError

def message : UriError → String
  | invalidUri => "invalid uri"
  | invalidSegment raw => "path segment is not valid utf-8: " ++ raw

end UriError

/-- One request, partly read or partly written. A method that is not set counts as `GET`, and
`malformed` says why the request could not be split. -/
structure Cursor where
  method? : Option Http.Method := none
  path : List String := []
  query : Query := {}
  body : Option Bytes := none
  contentType : Option Http.MediaType := none
  malformed : Option UriError := none
deriving DecidableEq

namespace Cursor

/-- The cursor that nothing has been written to. -/
def empty : Cursor := {}

/-- The request method, `GET` when it was never set. -/
def method (d : Cursor) : Http.Method := d.method?.getD .get

def setMethod (d : Cursor) (method : Http.Method) : Cursor := { d with method? := some method }

/-! ## Path -/

/-- The first segment, left in place. -/
def peekSegment (d : Cursor) : Option String := d.path.head?

/-- The first segment, and the cursor without it. -/
def popSegment (d : Cursor) : Option String × Cursor := (d.path.head?, { d with path := d.path.tail })

/-- Adds a segment behind the others. -/
def pushSegment (d : Cursor) (segment : String) : Cursor := { d with path := d.path ++ [segment] }

/-- No segment is left. -/
def isPathConsumed (d : Cursor) : Bool := d.path.isEmpty

/-! ## Query -/

/-- The values of a query key, and the cursor without that key. -/
def popQuery (d : Cursor) (key : String) : Option (List String) × Cursor :=
  (d.query.find? key, { d with query := d.query.erase key })

/-- Adds one value for a query key. -/
def pushQuery (d : Cursor) (key value : String) : Cursor := { d with query := d.query.push key value }

/-! ## Body -/

/-- The body, and the cursor without one. -/
def takeBody (d : Cursor) : Option Bytes × Cursor := (d.body, { d with body := none })

def setBody (d : Cursor) (body : Bytes) : Cursor := { d with body := some body }

def setContentType (d : Cursor) (contentType : Http.MediaType) : Cursor :=
  { d with contentType := some contentType }

/-- There is no body, or it is empty. -/
def isBodyConsumed (d : Cursor) : Bool := (d.body.getD []).isEmpty

/-! ## Fragments -/

/-- Adds a written fragment. Whether the fragment was malformed does not matter. -/
def merge (d fragment : Cursor) : Cursor where
  method? := fragment.method?.or d.method?
  path := d.path ++ fragment.path
  query := d.query.merge fragment.query
  body := fragment.body.or d.body
  contentType := fragment.contentType.or d.contentType
  malformed := d.malformed

/-! ## Agreement -/

/-- Cursors agree when their media types do and all else is the same. -/
def agrees (d other : Cursor) : Bool :=
  { d with contentType := none } = { other with contentType := none } &&
    match d.contentType, other.contentType with
    | some m, some n => m.agrees n
    | none, none => true
    | _, _ => false

theorem agrees_self (d : Cursor) : d.agrees d := by
  cases h : d.contentType <;> simp [agrees, h, Http.MediaType.agrees_self]

end Cursor

end Signpost

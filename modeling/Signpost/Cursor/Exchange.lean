import Signpost.Cursor.Target
import Signpost.Http.Request

/-!
# Cursors and http requests

* `Cursor.toRequest?` sends a cursor as a request.
* `Cursor.ofRequest` reads any request. One whose path cannot be split becomes a malformed cursor, an
  unreadable content type is dropped, and an empty body counts as none.
* `Cursor.describe` is the one-line description of a cursor.
-/

namespace Signpost.Cursor

/-- The request of a cursor, unless its uri is too long or its media type no header value. -/
def toRequest? (d : Cursor) : Option Http.Request :=
  Http.Request.of? d.method d.pathString (d.contentType.map (·.text)) (d.body.getD [])

/-- The cursor of a request. -/
def ofRequest (r : Http.Request) : Cursor :=
  let d : Cursor :=
    match ofParts r.method r.uri with
    | .ok d => d
    | .error e => { method? := some r.method, malformed := some e }
  { d with
    contentType := r.mediaType?
    body := if r.body.isEmpty then none else some r.body }

/-! ## Description -/

/-- A text in double quotes, with a backslash before quotes and backslashes. -/
def quoted (text : String) : String :=
  "\"" ++ String.ofList (text.toList.flatMap fun c =>
    if c = '"' ∨ c = '\\' then ['\\', c] else [c]) ++ "\""

/-- The text of an optional part. -/
def optional (part : Option String) : String :=
  match part with
  | some text => "Some(" ++ text ++ ")"
  | none => "None"

/-- The description of a cursor: method, path and query, length of the body, media type, and why it
is malformed. Texts outside ASCII are left as they are. -/
def describe (d : Cursor) : String :=
  "RequestData \x7b method: " ++ d.method.name ++ ", path: " ++ quoted d.pathString ++
    ", body_len: " ++ optional (d.body.map fun body => toString body.length) ++
    ", content_type: " ++ optional (d.contentType.map fun m => quoted m.text) ++
    ", malformed: " ++ optional (d.malformed.map fun e => quoted e.message) ++ " \x7d"

end Signpost.Cursor

import Signpost.Cursor.Exchange
import Signpost.Matcher.Basic
import Signpost.Url.BaseUrl

/-!
# Routers

A router reads requests into routes with one root matcher, and makes paths, links and requests of routes
with the same matcher.

* `resolve` reads a request. All of its path and of its body must be read, its query fields need not.
* `print`, `path`, `link` and `request` write a route; a route that cannot be written is `Unprintable`.
* `audit` writes a route, reads it back and compares.
-/

namespace Signpost

/-- A root matcher, and the base url in front of links. -/
structure Router (α : Type) where
  root : Matcher α
  base : BaseUrl

/-- A route that cannot be written, and why. -/
structure Unprintable where
  cause : PrintError
deriving DecidableEq

namespace Unprintable

def message (e : Unprintable) : String := "route can't be printed: " ++ e.cause.message

end Unprintable

/-- Why a written route does not read back as itself. -/
inductive RoundTripError where
  | print (cause : PrintError)
  | parse (method : Http.Method) (path : String) (cause : MatchError)
  /-- It reads back as another route. -/
  | mismatch (method : Http.Method) (path : String)
deriving DecidableEq

namespace RoundTripError

/-- The wording of an error; a mismatch has none without the texts of both routes. -/
def message? : RoundTripError → Option String
  | print cause => some ("printing failed: " ++ cause.message)
  | parse method path cause =>
    some ("printed request '" ++ method.name ++ " " ++ path ++ "' did not parse: " ++ cause.message)
  | mismatch _ _ => none

end RoundTripError

namespace Router

variable {α : Type}

/-- The base url of a router that was given none. -/
def defaultBase : String := "http://localhost:8080"

/-- The router of a root matcher and a base url. -/
def build (root : Matcher α) (base : String := defaultBase)
    (names : Url.NameReading := Url.asciiName?) : Except ConfigError (Router α) :=
  match BaseUrl.parse base names with
  | .ok base => .ok ⟨root, base⟩
  | .error e => .error e

/-- The router with another base url. -/
def withBase (r : Router α) (base : BaseUrl) : Router α := { r with base }

/-! ## Reading -/

/-- The route of a request, or why there is none. -/
def resolve (r : Router α) (d : Cursor) : Except MatchError α :=
  match d.malformed with
  | some cause => .error (.malformedRequest cause)
  | none =>
    match r.root.parse d with
    | (.error e, _) => .error e
    | (.ok route, rest) =>
      if !rest.isPathConsumed then .error (.unconsumedPath rest.path.length)
      else if !rest.isBodyConsumed then .error .unconsumedBody
      else .ok route

/-- The route of a request, if there is one. -/
def resolve? (r : Router α) (d : Cursor) : Option α := (r.resolve d).toOption

/-! ## Writing -/

/-- The cursor that a route is written to. -/
def tryPrint (r : Router α) (route : α) : Except PrintError Cursor :=
  match r.root.print route .empty with
  | (.ok (), d) => .ok d
  | (.error e, _) => .error e

/-- The cursor of a route that every route of a tree should have. -/
def print (r : Router α) (route : α) : Except Unprintable Cursor :=
  match r.tryPrint route with
  | .ok d => .ok d
  | .error cause => .error ⟨cause⟩

/-- Path and query of a route. -/
def path (r : Router α) (route : α) : Except Unprintable String :=
  (r.print route).map (·.pathString)

/-- The absolute link to a route. -/
def link (r : Router α) (route : α) : Except Unprintable String :=
  (r.path route).map (r.base.linkBase ++ ·)

/-- The request of a route, if the written route may be sent. -/
def request (r : Router α) (route : α) : Except Unprintable (Option Http.Request) :=
  (r.print route).map (·.toRequest?)

/-! ## Round trips -/

/-- A written cursor read again from its method, its path and query, its media type and its body. -/
def reread (d : Cursor) : Except UriError Cursor :=
  match Cursor.ofUri d.method d.pathString with
  | .error e => .error e
  | .ok again => .ok { again with contentType := d.contentType, body := d.body }

/-- Writes a route, reads it back and compares. -/
def audit [DecidableEq α] (r : Router α) (route : α) : Except RoundTripError Unit :=
  match r.tryPrint route with
  | .error cause => .error (.print cause)
  | .ok d =>
    match reread d with
    | .error cause => .error (.parse d.method d.pathString (.unreadable cause))
    | .ok again =>
      match r.resolve again with
      | .error cause => .error (.parse d.method d.pathString cause)
      | .ok found => if found = route then .ok () else .error (.mismatch d.method d.pathString)

end Router

end Signpost

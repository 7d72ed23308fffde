import Signpost.Body.Record
import Signpost.Conversion
import Signpost.Matcher.Error

/-!
# Matchers

A matcher describes one part of a request in both directions: `Matcher.parse` takes the part away from a
cursor and gives its value, `Matcher.print` adds the part of a value to a cursor. Both give the cursor
that they leave, after a failure too.

* A failed primitive matcher leaves its part in place. `skip` and `take` run matchers in order and give
  nothing back; `oneOf` starts every alternative from the same cursor and gives everything back.
* `map` writes into a fragment that is added only when all of it is written. A value that its conversion
  refuses is unclaimed, which lets `oneOf` go on; a part that is unclaimed below it is an error.
* `parse_oneOf`, `print_oneOf`: an alternation reads and writes with the first of its alternatives that can.
-/

namespace Signpost

/-- A matcher for values of a type. -/
inductive Matcher : Type → Type 1 where
  /-- Matches always, without looking at the request. -/
  | start : Matcher Unit
  /-- One path segment with this text. -/
  | literal (text : String) : Matcher Unit
  /-- The request method. -/
  | method (method : Http.Method) : Matcher Unit
  /-- One path segment. -/
  | segment {α : Type} (conversion : Conversion String α) : Matcher α
  /-- The first value of a query key. -/
  | query {α : Type} (key : String) (conversion : Conversion String α) : Matcher α
  /-- The first value of a query key, if there is one and it can be converted. -/
  | optionalQuery {α : Type} (key : String) (conversion : Conversion String α) : Matcher (Option α)
  /-- The first value of a query key, or a default that is never written. -/
  | queryOr {α : Type} [DecidableEq α] (key : String) (conversion : Conversion String α) (default : α) :
      Matcher α
  /-- All values of a query key. -/
  | queryAll {α : Type} (key : String) (conversion : Conversion String α) : Matcher (List α)
  /-- A form as the whole body. A missing body counts as an empty form. -/
  | form {α : Type} (codec : BodyCodec α) : Matcher α
  /-- A JSON document as the whole body. -/
  | json {α : Type} (codec : BodyCodec α) : Matcher α
  /-- The bytes of the body. -/
  | rawBody : Matcher Bytes
  /-- A matcher and then another, whose value says nothing. -/
  | skip {α : Type} (first : Matcher α) (next : Matcher Unit) : Matcher α
  /-- A matcher and then another, with both values. -/
  | take {α β : Type} (first : Matcher α) (next : Matcher β) : Matcher (α × β)
  /-- A matcher after which no path segment may be left. -/
  | whole {α : Type} (inner : Matcher α) : Matcher α
  /-- A matcher whose value goes through a conversion. -/
  | map {α β : Type} (inner : Matcher α) (conversion : Conversion α β) : Matcher β
  /-- The first of some matchers that matches. -/
  | choice {α : Type} (count : Nat) (alternative : Fin count → Matcher α) : Matcher α

/-- A result and the cursor that was left. -/
abbrev Outcome (ε α : Type) := Except ε α × Cursor

namespace Matcher

variable {α β : Type}

/-- The first of some matchers that matches. -/
def oneOf (alternatives : List (Matcher α)) : Matcher α :=
  choice alternatives.length alternatives.get

/-! ## Reading -/

/-- The error of a body whose media type has another essence than `expected`, if it has one. -/
def checkContentType (expected : Http.MediaType) (d : Cursor) : Except MatchError Unit :=
  match d.contentType with
  | some found =>
    if found.essence = expected.essence then .ok ()
    else .error (.contentType expected.essence found.essence)
  | none => .ok ()

/-- Reads one path segment. -/
def parseSegment (c : Conversion String α) (d : Cursor) : Outcome MatchError α :=
  match d.path with
  | [] => (.error .pathExhausted, d)
  | raw :: path =>
    match c.apply raw with
    | some a => (.ok a, { d with path })
    | none => (.error (.segmentRejected raw), d)

/-- Reads the first value of a query key, if there is one and it can be converted. -/
def parseOptional (key : String) (c : Conversion String α) (d : Cursor) : Option α × Cursor :=
  match (d.query.first? key).bind c.apply with
  | some a => (some a, { d with query := d.query.erase key })
  | none => (none, d)

/-- Converts the values of a query key, or gives the first that is refused. -/
def convertAll (key : String) (c : Conversion String α) (values : List String) :
    Except MatchError (List α) :=
  values.mapM fun value =>
    match c.apply value with
    | some a => .ok a
    | none => .error (.fieldRejected key value)

/-- Reads a body of a media type. -/
def parseBody (mediaType : Http.MediaType) (missing : Except MatchError Bytes) (codec : BodyCodec α)
    (d : Cursor) : Outcome MatchError α :=
  match checkContentType mediaType d, d.body.elim missing .ok with
  | .error e, _ => (.error e, d)
  | .ok _, .error e => (.error e, d)
  | .ok _, .ok bytes =>
    match codec.decode? bytes with
    | some a => (.ok a, { d with body := none })
    | none => (.error .invalidBody, d)

/-- The first success of some readers, each started from the same cursor. -/
def parseFirst : List (Cursor → Outcome MatchError α) → Cursor → Outcome MatchError α
  | [], d => (.error .noAlternative, d)
  | reader :: readers, d =>
    match reader d with
    | (.ok a, rest) => (.ok a, rest)
    | (.error _, _) => parseFirst readers d

/-- Reads the part of a request that a matcher describes. -/
def parse : {α : Type} → Matcher α → Cursor → Outcome MatchError α
  | _, start, d => (.ok (), d)
  | _, literal text, d =>
    match d.path with
    | [] => (.error .pathExhausted, d)
    | raw :: path =>
      if raw = text then (.ok (), { d with path }) else (.error (.literalMismatch text raw), d)
  | _, method expected, d =>
    if d.method = expected then (.ok (), d) else (.error (.methodMismatch expected d.method), d)
  | _, segment c, d => parseSegment c d
  | _, query key c, d =>
    match d.query.first? key with
    | none => (.error (.missingQuery key), d)
    | some value =>
      match c.apply value with
      | some a => (.ok a, { d with query := d.query.erase key })
      | none => (.error (.fieldRejected key value), d)
  | _, optionalQuery key c, d => ((.ok (parseOptional key c d).1), (parseOptional key c d).2)
  | _, @queryOr _ _ key c default, d =>
    (.ok ((parseOptional key c d).1.getD default), (parseOptional key c d).2)
  | _, queryAll key c, d =>
    match d.query.find? key with
    | none => (.ok [], d)
    | some values =>
      match convertAll key c values with
      | .ok as => (.ok as, { d with query := d.query.erase key })
      | .error e => (.error e, d)
  | _, form codec, d => parseBody .form (.ok []) codec d
  | _, json codec, d => parseBody .json (.error .missingJsonBody) codec d
  | _, rawBody, d =>
    match d.body with
    | some bytes => (.ok bytes, { d with body := none })
    | none => (.error .missingBody, d)
  | _, skip first next, d =>
    match first.parse d with
    | (.error e, d) => (.error e, d)
    | (.ok a, d) =>
      match next.parse d with
      | (.error e, d) => (.error e, d)
      | (.ok (), d) => (.ok a, d)
  | _, take first next, d =>
    match first.parse d with
    | (.error e, d) => (.error e, d)
    | (.ok a, d) =>
      match next.parse d with
      | (.error e, d) => (.error e, d)
      | (.ok b, d) => (.ok (a, b), d)
  | _, whole inner, d =>
    match inner.parse d with
    | (.error e, d) => (.error e, d)
    | (.ok a, d) => if d.path = [] then (.ok a, d) else (.error (.unconsumedPath d.path.length), d)
  | _, map inner c, d =>
    match inner.parse d with
    | (.error e, d) => (.error e, d)
    | (.ok a, d) =>
      match c.apply a with
      | some b => (.ok b, d)
      | none => (.error .caseRejected, d)
  | _, choice _ alternative, d => parseFirst (List.ofFn fun i => (alternative i).parse) d

/-! ## Writing -/

/-- Writes one value of a query key. -/
def printField (key : String) (c : Conversion String α) (a : α) (d : Cursor) : Outcome PrintError Unit :=
  match c.unapply a with
  | some value => (.ok (), d.pushQuery key value)
  | none => (.error (.fieldRefused key), d)

/-- Writes the values of a query key up to the first that is refused. -/
def printFields (key : String) (c : Conversion String α) : List α → Cursor → Outcome PrintError Unit
  | [], d => (.ok (), d)
  | a :: as, d =>
    match printField key c a d with
    | (.ok (), d) => printFields key c as d
    | (.error e, d) => (.error e, d)

/-- Writes a body of a media type. -/
def printBody (mediaType : Http.MediaType) (codec : BodyCodec α) (a : α) (d : Cursor) :
    Outcome PrintError Unit :=
  match codec.encode? a with
  | some bytes => (.ok (), (d.setContentType mediaType).setBody bytes)
  | none => (.error .bodyRefused, d)

/-- The first of some writers that claims the value, each started from the empty cursor; what it writes
is added as a fragment. -/
def printFirst : List (Cursor → Outcome PrintError Unit) → Cursor → Outcome PrintError Unit
  | [], d => (.error .unclaimed, d)
  | writer :: writers, d =>
    match writer .empty with
    | (.ok (), fragment) => (.ok (), d.merge fragment)
    | (.error .unclaimed, _) => printFirst writers d
    | (.error e, _) => (.error e, d)

/-- Writes the part of a request that a matcher describes. -/
def print : {α : Type} → Matcher α → α → Cursor → Outcome PrintError Unit
  | _, start, _, d => (.ok (), d)
  | _, literal text, _, d => (.ok (), d.pushSegment text)
  | _, method m, _, d => (.ok (), d.setMethod m)
  | _, segment c, a, d =>
    match c.unapply a with
    | some text => if text = "" then (.error .emptySegment, d) else (.ok (), d.pushSegment text)
    | none => (.error .segmentRefused, d)
  | _, query key c, a, d => printField key c a d
  | _, optionalQuery key c, a?, d =>
    match a? with
    | some a => printField key c a d
    | none => (.ok (), d)
  | _, @queryOr _ _ key c default, a, d => if a = default then (.ok (), d) else printField key c a d
  | _, queryAll key c, as, d => printFields key c as d
  | _, form codec, a, d => printBody .form codec a d
  | _, json codec, a, d => printBody .json codec a d
  | _, rawBody, bytes, d => (.ok (), d.setBody bytes)
  | _, skip first next, a, d =>
    match first.print a d with
    | (.ok (), d) => next.print () d
    | (.error e, d) => (.error e, d)
  | _, take first next, (a, b), d =>
    match first.print a d with
    | (.ok (), d) => next.print b d
    | (.error e, d) => (.error e, d)
  | _, whole inner, a, d => inner.print a d
  | _, map inner c, b, d =>
    match c.unapply b with
    | none => (.error .unclaimed, d)
    | some a =>
      match inner.print a .empty with
      | (.ok (), fragment) => (.ok (), d.merge fragment)
      | (.error .unclaimed, _) => (.error .unclaimedPart, d)
      | (.error e, _) => (.error e, d)
  | _, choice _ alternative, a, d => printFirst (List.ofFn fun i => (alternative i).print a) d

/-! ## Alternations of a list -/

theorem ofFn_get_map {γ : Type} (ms : List (Matcher α)) (f : Matcher α → γ) :
    (List.ofFn fun i => f (ms.get i)) = ms.map f := by
  apply List.ext_getElem <;> simp

/-- An alternation reads with the first of its alternatives that matches. -/
theorem parse_oneOf (ms : List (Matcher α)) (d : Cursor) :
    (oneOf ms).parse d = parseFirst (ms.map parse) d := by
  rw [oneOf, parse, ofFn_get_map ms parse]

/-- An alternation writes with the first of its alternatives that claims the value. -/
theorem print_oneOf (ms : List (Matcher α)) (a : α) (d : Cursor) :
    (oneOf ms).print a d = printFirst (ms.map fun m => m.print a) d := by
  rw [oneOf, print, ofFn_get_map ms fun m => m.print a]

end Matcher

end Signpost

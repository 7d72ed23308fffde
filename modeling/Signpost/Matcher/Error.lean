import Signpost.Cursor.Basic

/-!
# Why a request does not match, or a value cannot be written

* `MatchError` and `PrintError` are the causes; `message` gives their wording.
-/

namespace Signpost

/-- Why a request does not match. -/
inductive MatchError where
  | pathExhausted
  | literalMismatch (expected found : String)
  | methodMismatch (expected found : Http.Method)
  | missingQuery (key : String)
  /-- The conversion of a path segment refuses it. -/
  | segmentRejected (segment : String)
  /-- The conversion of a query field refuses its value. -/
  | fieldRejected (key value : String)
  /-- A conversion refuses what was matched. -/
  | caseRejected
  /-- A written request cannot be split. -/
  | unreadable (cause : UriError)
  | missingJsonBody
  | missingBody
  /-- A body is there, but it does not stand for a value. -/
  | invalidBody
  | contentType (expected found : String)
  | noAlternative
  | unconsumedPath (remaining : Nat)
  | unconsumedBody
  | malformedRequest (cause : UriError)
deriving DecidableEq

namespace MatchError

def message : MatchError → String
  | pathExhausted => "expected a path segment, but the path is exhausted"
  | literalMismatch expected found => "expected path segment '" ++ expected ++ "', found '" ++ found ++ "'"
  | methodMismatch expected found => "expected method " ++ expected.name ++ ", found " ++ found.name
  | missingQuery key => "missing query field '" ++ key ++ "'"
  | segmentRejected segment => "conversion failed: can't convert path segment '" ++ segment ++ "'"
  | fieldRejected key value =>
    "conversion failed: can't convert query field '" ++ key ++ "=" ++ value ++ "'"
  | caseRejected => "conversion failed: matched fields were rejected by the case"
  | unreadable cause => "conversion failed: " ++ cause.message
  | missingJsonBody => "invalid body: missing json body"
  | missingBody => "invalid body: missing body"
  | invalidBody => "invalid body"
  | contentType expected found => "expected content type " ++ expected ++ ", found " ++ found
  | noAlternative => "no alternative matched"
  | unconsumedPath remaining => toString remaining ++ " path segment(s) left unconsumed"
  | unconsumedBody => "request body left unconsumed"
  | malformedRequest cause => "malformed request: " ++ cause.message

end MatchError

/-- Why a value cannot be written. -/
inductive PrintError where
  /-- The value belongs to another matcher. -/
  | unclaimed
  /-- The conversion of a path segment refuses the value. -/
  | segmentRefused
  /-- A segment without characters would vanish from the path. -/
  | emptySegment
  /-- The conversion of a query field refuses the value. -/
  | fieldRefused (key : String)
  /-- The value has no form as a body. -/
  | bodyRefused
  /-- A conversion claims the value, but a part of it is unclaimed. -/
  | unclaimedPart
deriving DecidableEq

namespace PrintError

def message : PrintError → String
  | unclaimed => "value is not handled by this router"
  | segmentRefused => "conversion failed while printing: path segment"
  | emptySegment => "conversion failed while printing: path segment printed as an empty string"
  | fieldRefused key => "conversion failed while printing: " ++ key
  | bodyRefused => "failed to encode body"
  | unclaimedPart => "conversion failed while printing: a claimed value has a part no router accepts"

end PrintError

end Signpost

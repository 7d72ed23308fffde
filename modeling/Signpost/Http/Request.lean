import Signpost.Http.MediaType
import Signpost.Http.Method
import Signpost.Http.Uri
import Signpost.Text.Utf8

/-!
# Http requests

A request as it is sent: a method, a uri, the text of the content type header and a body, which is
empty when there is none.
-/

namespace Signpost.Http

/-- A request. -/
structure Request where
  method : Method
  uri : Uri
  contentType : Option String := none
  body : Bytes := []
deriving DecidableEq

namespace Request

/-- A character that may stand in the value of a header. -/
def isHeaderChar (c : Char) : Bool := c = '\t' || (0x20 ≤ c.toNat && c.toNat ≠ 0x7F)

/-- A character of a header value that can be read as text. -/
def isVisible (c : Char) : Bool := c = '\t' || (0x20 ≤ c.toNat && c.toNat < 0x7F)

/-- The header value holds no control character. -/
def isHeaderValue (value : String) : Bool := value.toList.all isHeaderChar

/-- The request of a method, the text of a uri, the value of the content type header and a body, if
uri and header value may be sent. -/
def of? (method : Method) (uri : String) (contentType : Option String) (body : Bytes) :
    Option Request :=
  match Uri.ofText? uri with
  | some uri => if contentType.all isHeaderValue then some { method, uri, contentType, body } else none
  | none => none

/-- The media type in the content type header, if it can be read. -/
def mediaType? (r : Request) : Option MediaType :=
  match r.contentType with
  | some value => if value.toList.all isVisible then MediaType.ofText? value else none
  | none => none

end Request

end Signpost.Http

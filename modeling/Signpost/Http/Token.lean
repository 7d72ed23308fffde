/-!
# Tokens

The characters of method names, media types and parameter names.
-/

namespace Signpost.Http

/-- A letter, a digit or one of the fifteen marks that a token may hold. -/
def isTokenChar (c : Char) : Bool := c.isAlphanum || "!#$%&'*+-.^_`|~".toList.contains c

/-- A token: one or more token characters. -/
def isToken (cs : List Char) : Bool := !cs.isEmpty && cs.all isTokenChar

end Signpost.Http

import Signpost.Http.Token

/-!
# Request methods

A method is a token, and its case matters.

* `Method.ofName?` refuses a name that is no token.
-/

namespace Signpost.Http

/-- A request method. -/
structure Method where
  name : String
  isToken_name : isToken name.toList = true
deriving DecidableEq

namespace Method

/-- The method with this name, if the name is a token. -/
def ofName? (name : String) : Option Method :=
  if h : isToken name.toList then some ⟨name, h⟩ else none

def get : Method := ⟨"GET", by decide⟩
def post : Method := ⟨"POST", by decide⟩
def put : Method := ⟨"PUT", by decide⟩
def patch : Method := ⟨"PATCH", by decide⟩
def delete : Method := ⟨"DELETE", by decide⟩
def head : Method := ⟨"HEAD", by decide⟩

/-- Methods are told apart by their names. -/
@[ext] theorem ext {m n : Method} (h : m.name = n.name) : m = n := by
  cases m; cases n; cases h; rfl

end Method

end Signpost.Http

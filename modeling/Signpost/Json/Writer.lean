import Signpost.Json.Value

/-!
# Writing JSON

* `Json.render` writes a value without white space, members in their order.
-/

namespace Signpost.Json

mutual

/-- The document of a value. -/
def render : Json → Bytes
  | .null => [0x6E, 0x75, 0x6C, 0x6C]
  | .bool true => [0x74, 0x72, 0x75, 0x65]
  | .bool false => [0x66, 0x61, 0x6C, 0x73, 0x65]
  | .number written => written
  | .text written => 0x22 :: (written ++ [0x22])
  | .array [] => [0x5B, 0x5D]
  | .array (item :: items) => 0x5B :: (item.render ++ renderItems items)
  | .object [] => [0x7B, 0x7D]
  | .object ((key, value) :: members) =>
    0x7B :: 0x22 :: (key ++ 0x22 :: 0x3A :: (value.render ++ renderMembers members))

/-- The items after the first, and the closing bracket. -/
def renderItems : List Json → Bytes
  | [] => [0x5D]
  | item :: items => 0x2C :: (item.render ++ renderItems items)

/-- The members after the first, and the closing brace. -/
def renderMembers : List (Bytes × Json) → Bytes
  | [] => [0x7D]
  | (key, value) :: members =>
    0x2C :: 0x22 :: (key ++ 0x22 :: 0x3A :: (value.render ++ renderMembers members))

end

end Signpost.Json

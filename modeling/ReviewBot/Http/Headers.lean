import ReviewBot.Text.Utf8

set_option autoImplicit false

/-!
# Headers

Headers of requests and responses. A value is a row of bytes; it counts as a text only if all of
them can be seen.
-/

namespace ReviewBot

/-- Headers of a message in order, each with its name and its value. -/
abbrev Headers := List (String × Bytes)

namespace Headers

/-- The value in characters that can be seen, spaces and tabs; others are not allowed in it. -/
def visibleText? (value : Bytes) : Option String :=
  if value.all fun b => b = 0x09 || (0x20 ≤ b && b < 0x7F) then Text.ofUtf8? value else none

/-- The value of the first header with a name, in which case does not matter. -/
def text? (headers : Headers) (name : String) : Option String :=
  (headers.find? fun h => h.1.toLower = name).bind fun h => visibleText? h.2

end Headers

end ReviewBot

import ReviewBot.Text.Shown

set_option autoImplicit false

/-!
# Quoted texts

A quoted text stands between double quotes. Quotes, backslashes and the usual controls are written
with a backslash; every other character that is not legible on its own is written by its code point
in hexadecimal between braces.
-/

namespace ReviewBot.Text

/-- The way a character is written between quotes. -/
def quoteChar (c : Char) : List Char :=
  if c = '"' then ['\\', '"']
  else if c = '\\' then ['\\', '\\']
  else if c = '\x00' then ['\\', '0']
  else if c = '\t' then ['\\', 't']
  else if c = '\r' then ['\\', 'r']
  else if c = '\n' then ['\\', 'n']
  else if isShown c then [c]
  else ['\\', 'u', '\x7b'] ++ Nat.toDigits 16 c.toNat ++ ['\x7d']

end ReviewBot.Text

namespace String

/-- The text between double quotes. -/
def inQuotes (s : String) : String :=
  "\"" ++ ofList (s.toList.flatMap ReviewBot.Text.quoteChar) ++ "\""

end String

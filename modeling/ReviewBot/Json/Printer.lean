import ReviewBot.Json.Basic

set_option autoImplicit false

/-!
# Writing JSON

`Json.compact` writes a value without any blanks, `Json.pretty` with one member or element to a line
and two blanks for each level. Doubles are written by their shortest text.
-/

namespace ReviewBot.Json

/-- The way a character is written in a string. -/
def escapeChar (c : Char) : List Char :=
  if c = '"' then ['\\', '"']
  else if c = '\\' then ['\\', '\\']
  else if c = '\x08' then ['\\', 'b']
  else if c = '\x0c' then ['\\', 'f']
  else if c = '\n' then ['\\', 'n']
  else if c = '\r' then ['\\', 'r']
  else if c = '\t' then ['\\', 't']
  else if c.toNat < 0x20 then
    ['\\', 'u', '0', '0', if c.toNat < 0x10 then '0' else '1'] ++ Nat.toDigits 16 (c.toNat % 16)
  else [c]

/-- A string literal. -/
def quoted (s : String) : String := "\"" ++ String.ofList (s.toList.flatMap escapeChar) ++ "\""

/-- The text of a value that holds no others. -/
def scalarText : Json → String
  | bool b => if b then "true" else "false"
  | int i => toString i
  | double x => if x.isFinite then x.text else "null"
  | text s => quoted s
  | _ => "null"

mutual

/-- The value without blanks. -/
def compact : Json → String
  | list items => "[" ++ compactItems true items ++ "]"
  | object members => "\x7b" ++ compactMembers true members ++ "\x7d"
  | v => scalarText v

/-- The elements of a list, with a comma before each but the first. -/
def compactItems (first : Bool) : List Json → String
  | [] => ""
  | v :: rest => (if first then "" else ",") ++ compact v ++ compactItems false rest

/-- The members of an object, with a comma before each but the first. -/
def compactMembers (first : Bool) : List (String × Json) → String
  | [] => ""
  | (key, v) :: rest =>
    (if first then "" else ",") ++ quoted key ++ ":" ++ compact v ++ compactMembers false rest

end

/-- A new line at a level of nesting. -/
def newLine (level : Nat) : String := "\n" ++ String.ofList (List.replicate (2 * level) ' ')

mutual

/-- The value over several lines; `level` is the nesting of the line it begins on. -/
def prettyAt (level : Nat) : Json → String
  | list [] => "[]"
  | list (v :: rest) => "[" ++ prettyItems level true (v :: rest) ++ newLine level ++ "]"
  | object [] => "\x7b\x7d"
  | object (m :: rest) =>
    "\x7b" ++ prettyMembers level true (m :: rest) ++ newLine level ++ "\x7d"
  | v => scalarText v

/-- The elements of a list, each on a line of its own. -/
def prettyItems (level : Nat) (first : Bool) : List Json → String
  | [] => ""
  | v :: rest =>
    (if first then "" else ",") ++ newLine (level + 1) ++ prettyAt (level + 1) v ++
      prettyItems level false rest

/-- The members of an object, each on a line of its own. -/
def prettyMembers (level : Nat) (first : Bool) : List (String × Json) → String
  | [] => ""
  | (key, v) :: rest =>
    (if first then "" else ",") ++ newLine (level + 1) ++ quoted key ++ ": " ++
      prettyAt (level + 1) v ++ prettyMembers level false rest

end

/-- The value over several lines. -/
def pretty (v : Json) : String := prettyAt 0 v

end ReviewBot.Json

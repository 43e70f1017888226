import ReviewBot.Numeric.Numeral

set_option autoImplicit false

/-!
# Documents

A document is the tree of lists, tables and scalars that a configuration or a message is written
as, before any meaning is read into it: numbers keep their digits, tables keep their entries in
order with repeated keys, and a text that no sequence of characters can represent is kept as absent.
-/

namespace ReviewBot

/-- A text as written; `none` when it has an escape of half a character. -/
abbrev WrittenText := Option String

/-- A tree of scalars, lists and tables as written. -/
inductive Document where
  | null
  | bool (b : Bool)
  | number (n : Numeral)
  | text (t : WrittenText)
  /-- A date or time, which no field of this program is read from. -/
  | moment
  /-- A number that is not an integer, in a format that tells the two apart. -/
  | fractional
  | list (items : List Document)
  | table (entries : List (WrittenText × Document))
  deriving Inhabited

end ReviewBot

import ReviewBot.Text.CodeRange

set_option autoImplicit false

/-!
# Blank characters

Blank are the characters with the Unicode property `White_Space`. Trimming removes them from both
ends of a text; `trimStart`, `trimEnd` and `trim` never touch anything between.
-/

namespace ReviewBot.Text

/-- The code points of blank characters. -/
def blankRanges : List CodeRange :=
  [(0x09, 0x0D), (0x20, 0x20), (0x85, 0x85), (0xA0, 0xA0), (0x1680, 0x1680), (0x2000, 0x200A),
   (0x2028, 0x2029), (0x202F, 0x202F), (0x205F, 0x205F), (0x3000, 0x3000)]

/-- Whether `c` is white space. -/
def isBlank (c : Char) : Bool := c.inRanges blankRanges

/-- Removes the characters at the end for which `p` holds. -/
def dropEndWhile (p : Char → Bool) (s : List Char) : List Char :=
  (s.reverse.dropWhile p).reverse

/-- Removes blanks at the beginning. -/
def trimStart (s : List Char) : List Char := s.dropWhile isBlank

/-- Removes blanks at the end. -/
def trimEnd (s : List Char) : List Char := dropEndWhile isBlank s

/-- Removes blanks at both ends. -/
def trim (s : List Char) : List Char := trimEnd (trimStart s)

/-- Removes the characters for which `p` holds from both ends. -/
def dropAroundWhile (p : Char → Bool) (s : List Char) : List Char :=
  dropEndWhile p (s.dropWhile p)

end ReviewBot.Text

namespace String

/-- The text without the blanks at its ends. -/
def trimBlanks (s : String) : String := ofList (ReviewBot.Text.trim s.toList)

/-- The text holds nothing but blanks. -/
def isBlank (s : String) : Bool := s.toList.all ReviewBot.Text.isBlank

/-- The text without any `c` at its end. -/
def dropEndChar (s : String) (c : Char) : String :=
  ofList (ReviewBot.Text.dropEndWhile (· == c) s.toList)

end String

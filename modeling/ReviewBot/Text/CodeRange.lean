set_option autoImplicit false

/-!
# Ranges of code points

Character classes are given as lists of ranges of code points, both ends included.
-/

namespace ReviewBot.Text

/-- A range of code points, by its first and its last member. -/
abbrev CodeRange := Nat × Nat

/-- The range holds the code point `n`. -/
def CodeRange.holds (r : CodeRange) (n : Nat) : Bool := r.1 ≤ n && n ≤ r.2

end ReviewBot.Text

namespace Char

/-- Whether the character lies in one of the ranges. -/
def inRanges (c : Char) (ranges : List ReviewBot.Text.CodeRange) : Bool :=
  ranges.any (·.holds c.toNat)

end Char

set_option autoImplicit false

/-!
# Unsigned integers in texts

An unsigned integer is written with ASCII digits, of which there is at least one, leading zeros and
one plus sign in front allowed, and lies below a given limit.
-/

namespace ReviewBot

/-- The greatest line number, count and precedence: `2 ^ 32 - 1`. -/
def maxWord : Nat := 4294967295

/-- The greatest identifier and size: `2 ^ 64 - 1`. -/
def maxLong : Nat := 18446744073709551615

namespace Numeric

/-- The value of a digit. -/
def digitValue (c : Char) : Nat := c.toNat - '0'.toNat

/-- The number that a row of digits denotes. -/
def ofDigits (digits : List Char) : Nat := digits.foldl (fun n c => 10 * n + digitValue c) 0

/-- The number denoted by a non-empty row of digits, if it is at most `limit`. -/
def digits? (limit : Nat) (s : List Char) : Option Nat :=
  if !s.isEmpty && s.all (·.isDigit) && ofDigits s ≤ limit then some (ofDigits s) else none

/-- Reads an unsigned integer up to `limit`; one plus sign in front is allowed. -/
def unsigned? (limit : Nat) : List Char → Option Nat
  | '+' :: rest => digits? limit rest
  | s => digits? limit s

end Numeric

end ReviewBot

import ReviewBot.Text.Utf8

set_option autoImplicit false

/-!
# Hexadecimal digits

A byte is written as two digits, the higher one first, in small letters. Reading takes letters of
either case.
-/

namespace ReviewBot

namespace Numeric

/-- The value of a hexadecimal digit. -/
def hexDigit? (c : Char) : Option Nat :=
  if c.isDigit then some (c.toNat - '0'.toNat)
  else if 'a' ≤ c && c ≤ 'f' then some (c.toNat - 'a'.toNat + 10)
  else if 'A' ≤ c && c ≤ 'F' then some (c.toNat - 'A'.toNat + 10)
  else none

/-- The digit with a value below sixteen. -/
def hexDigit (n : Nat) : Char :=
  if n < 10 then Char.ofNat ('0'.toNat + n) else Char.ofNat ('a'.toNat + (n - 10))

end Numeric

namespace Bytes

/-- The two digits of a byte. -/
def hexOf (b : UInt8) : List Char :=
  [Numeric.hexDigit (b.toNat / 16), Numeric.hexDigit (b.toNat % 16)]

/-- The digits of bytes. -/
def toHex (bytes : Bytes) : List Char := bytes.flatMap hexOf

/-- The bytes with given digits, of which there is an even number. -/
def ofHex? : List Char → Option Bytes
  | [] => some []
  | [_] => none
  | high :: low :: rest => do
    let h ← Numeric.hexDigit? high
    let l ← Numeric.hexDigit? low
    let bytes ← ofHex? rest
    some (UInt8.ofNat (16 * h + l) :: bytes)

end Bytes

end ReviewBot

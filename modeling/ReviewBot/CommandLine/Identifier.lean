import ReviewBot.Crypto.Sha256
import ReviewBot.Numeric.Hex

set_option autoImplicit false

/-!
# Identifiers

An identifier has 128 bits, of which six are fixed and the others are drawn from a random seed and
the position of what is identified. It is written in five groups of hexadecimal digits.
-/

namespace ReviewBot

/-- The digits in groups of the given lengths. -/
def groups : List Nat → List Char → List (List Char)
  | [], _ => []
  | n :: lengths, digits => digits.take n :: groups lengths (digits.drop n)

/-- The identifier at a position. -/
def identifier (seed : Bytes) (position : Nat) : String :=
  let bits := (Sha256.digest (seed ++ Text.utf8 (toString position))).take 16
  let fixed := bits.zipIdx.map fun (b, i) =>
    if i = 6 then (b &&& 0x0F) ||| 0x40 else if i = 8 then (b &&& 0x3F) ||| 0x80 else b
  String.ofList (['-'].intercalate (groups [8, 4, 4, 4, 12] (Bytes.toHex fixed)))

end ReviewBot

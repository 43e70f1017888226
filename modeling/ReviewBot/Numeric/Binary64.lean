import ReviewBot.Numeric.Unsigned

set_option autoImplicit false

/-!
# Double-precision numbers by their bits

A number is kept as its 64 bits: a sign, eleven bits of exponent and fifty-two bits of fraction.
Below the sign the bits grow with the distance from zero, so both orders are read off integers:
`level` puts the two zeros together, as comparison does, and `rank` keeps them apart and gives
every bit pattern a place, as sorting needs.
-/

namespace ReviewBot

/-- A double-precision number. -/
structure Binary64 where
  /-- Sign, exponent and fraction, from the highest bit down. -/
  bits : UInt64
  deriving DecidableEq, Inhabited

namespace Binary64

/-- The number held by a machine float. -/
def ofFloat (f : Float) : Binary64 := ⟨f.toBits⟩

/-- The number as a machine float. -/
def toFloat (x : Binary64) : Float := Float.ofBits x.bits

/-- The value of the bit for the sign. -/
def signBit : Nat := 0x8000000000000000

/-- The value of the lowest bit of the exponent, and of the bit that is left out in front of the
fraction. -/
def leadingBit : Nat := 0x10000000000000

/-- The number has a minus sign. -/
def negative (x : Binary64) : Bool := signBit ≤ x.bits.toNat

/-- The bits below the sign: how many steps between neighbours lie between zero and the number. -/
def magnitude (x : Binary64) : Nat := x.bits.toNat % signBit

/-- The magnitude of the infinities. -/
def infiniteMagnitude : Nat := 2047 * leadingBit

/-- The bits denote no number. -/
def isNaN (x : Binary64) : Bool := infiniteMagnitude < x.magnitude

/-- The number is neither infinite nor undefined. -/
def isFinite (x : Binary64) : Bool := x.magnitude < infiniteMagnitude

/-- The place of the number among all numbers, both zeros at one place. -/
def level (x : Binary64) : Int := if x.negative then -x.magnitude else x.magnitude

/-- The place of the bit pattern among all bit patterns. -/
def rank (x : Binary64) : Int := if x.negative then -x.magnitude - 1 else x.magnitude

/-- `x` is less than `y`; an undefined number is less than none and greater than none. -/
def less (x y : Binary64) : Bool := !x.isNaN && !y.isNaN && x.level < y.level

/-- Positive zero. -/
def zero : Binary64 := ⟨0⟩

/-- One. -/
def one : Binary64 := ⟨0x3FF0000000000000⟩

/-- The nearest number between zero and one; negative zero and undefined numbers are kept. -/
def clampUnit (x : Binary64) : Binary64 :=
  if x.less zero then zero else if one.less x then one else x

/-- The value of a finite number without its sign: `m` and `q` for `m * 2 ^ q`. -/
def parts (x : Binary64) : Nat × Int :=
  let exponent : Nat := x.magnitude / leadingBit
  let fraction : Nat := x.magnitude % leadingBit
  if exponent = 0 then (fraction, -1074) else (leadingBit + fraction, (exponent : Int) - 1075)

end Binary64

end ReviewBot

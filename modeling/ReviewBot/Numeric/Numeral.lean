import ReviewBot.Numeric.Binary64

set_option autoImplicit false

/-!
# Written numbers

A numeral keeps the digits of a number as they were written. As an integer it must have neither
fraction nor exponent, and a zero with a minus sign is no integer. As a double it takes the leading
digits whose value fits into 64 bits and scales that value by a power of ten in double precision.
-/

namespace ReviewBot

/-- A decimal number as written. -/
structure Numeral where
  /-- There is a minus sign. -/
  negative : Bool
  /-- The digits before the point. -/
  whole : List Char
  /-- The digits after the point, if there is one. -/
  fraction : Option (List Char)
  /-- Whether the exponent is negative, and its digits, if there is one. -/
  exponent : Option (Bool × List Char)

/-- The least integer of 64 bits with a sign. -/
def leastSigned : Int := -9223372036854775808

/-- The greatest integer of 64 bits with a sign. -/
def greatestSigned : Int := 9223372036854775807

namespace Numeral

/-- The numeral of an integer. -/
def ofInt (i : Int) : Numeral := ⟨i < 0, Nat.toDigits 10 i.natAbs, none, none⟩

/-- The integer denoted, if the numeral is written as one. -/
def int? (n : Numeral) : Option Int :=
  match n.fraction, n.exponent with
  | none, none =>
    let value := Numeric.ofDigits n.whole
    if n.negative then (if value = 0 then none else some (-value)) else some value
  | _, _ => none

/-- The natural number denoted, if it is at most `limit`. -/
def nat? (limit : Nat) (n : Numeral) : Option Nat :=
  n.int?.bind fun i => if 0 ≤ i && i ≤ limit then some i.toNat else none

/-- Appends digits to `n` while the value fits into 64 bits; also gives the digits left over. -/
def fitting (n : Nat) : List Char → Nat × List Char
  | [] => (n, [])
  | d :: rest =>
    let next := 10 * n + Numeric.digitValue d
    if next ≤ maxLong then fitting next rest else (n, d :: rest)

/-- The double nearest to a power of ten. -/
def powerOfTen (e : Nat) : Float := Float.ofScientific 1 false e

/-- `f` times `10 ^ e` in double precision, if it stays finite. -/
def scale? (f : Float) (e : Int) : Option Float :=
  if f == 0 then some f
  else if 308 < e then none
  else if 0 ≤ e then
    let product := f * powerOfTen e.toNat
    if product.isInf then none else some product
  else if -308 ≤ e then some (f / powerOfTen (-e).toNat)
  -- Powers above the 308th are out of range and are divided by in two steps.
  else if -616 ≤ e then some (f / powerOfTen 308 / powerOfTen (-e - 308).toNat)
  else some 0

/-- The double denoted; numbers beyond the range of doubles denote none. -/
def binary64? (n : Numeral) : Option Binary64 :=
  let whole := fitting 0 n.whole
  let fraction := n.fraction.getD []
  let all := fitting whole.1 fraction
  -- A digit left over before the point stands for a factor of ten, and so does, inverted, a digit
  -- taken from behind it.
  let shift : Int := whole.2.length - (fraction.length - all.2.length)
  let exponent : Int :=
    match n.exponent with
    | none => 0
    | some (minus, ds) => if minus then -Numeric.ofDigits ds else Numeric.ofDigits ds
  (scale? (UInt64.ofNat all.1).toFloat (shift + exponent)).map fun f =>
    Binary64.ofFloat (if n.negative then -f else f)

end Numeral

end ReviewBot

import ReviewBot.Numeric.Binary64
import ReviewBot.Numeric.Power

set_option autoImplicit false

/-!
# Decimal texts of double-precision numbers

`shortest` finds the decimal with the fewest digits among those that round to a given number, and
the nearest of these. `text` writes it with a point while the exponent is small and with an
exponent otherwise. `nearestInteger` rounds to an integer, a half to the even neighbour.
-/

namespace ReviewBot.Binary64

open Numeric (tenTo twoTo)

/-- Compares `a * 10 ^ i` with `b * 2 ^ j`. -/
def compareScaled (a : Nat) (i : Int) (b : Nat) (j : Int) : Ordering :=
  compare (a * tenTo i.toNat * twoTo (-j).toNat) (b * twoTo j.toNat * tenTo (-i).toNat)

/-- The decimals that round to `m * 2 ^ q`, counted in quarters of the last place: they lie from
`4 * m - below` to `4 * m + 2`, both ends included when `m` is even. -/
structure RoundingInterval where
  /-- The significand. -/
  m : Nat
  /-- The exponent of the last place. -/
  q : Int
  /-- Distance to the lower end, in quarters of the last place. -/
  below : Nat

/-- The decimal `c * 10 ^ e` lies in the interval. -/
def RoundingInterval.holds (r : RoundingInterval) (c : Nat) (e : Int) : Bool :=
  let low := compareScaled c e (4 * r.m - r.below) (r.q - 2)
  let high := compareScaled c e (4 * r.m + 2) (r.q - 2)
  if r.m % 2 = 0 then low != .lt && high != .gt else low == .gt && high == .lt

/-- `⌊m * 2 ^ q / 10 ^ e⌋`. -/
def floorScaled (m : Nat) (q e : Int) : Nat :=
  (m * twoTo q.toNat * tenTo (-e).toNat) / (twoTo (-q).toNat * tenTo e.toNat)

/-- The candidate of the grid `10 ^ e` nearest to the number, if one of its two neighbours on that
grid rounds to it; of two equally near ones the even one. -/
def RoundingInterval.onGrid? (r : RoundingInterval) (e : Int) : Option Nat :=
  let c := floorScaled r.m r.q e
  match r.holds c e, r.holds (c + 1) e with
  | true, false => some c
  | false, true => some (c + 1)
  | false, false => none
  | true, true =>
    match compareScaled (2 * c + 1) e (2 * r.m) r.q with
    | .gt => some c
    | .lt => some (c + 1)
    | .eq => some (if c % 2 = 0 then c else c + 1)

/-- The first grid, from coarse to fine, with a decimal that rounds to the number. -/
def RoundingInterval.search (r : RoundingInterval) : Nat → Int → Nat × Int
  -- Seventeen grids are enough for a finite number, so this line is never reached.
  | 0, e => (floorScaled r.m r.q e, e)
  | n + 1, e =>
    match r.onGrid? e with
    | some c => (c, e)
    | none => r.search n (e - 1)

/-- The shortest decimal `c * 10 ^ e` that rounds to `m * 2 ^ q`; seventeen digits always do. -/
def shortest (m : Nat) (q : Int) : Nat × Int :=
  -- Below a power of two the neighbours are twice as close.
  let below := if m = leadingBit && q != -1074 then 1 else 2
  let digits : Int := (Nat.toDigits 10 (floorScaled m q (-350))).length
  RoundingInterval.search ⟨m, q, below⟩ 17 (digits - 351)

/-- A row of zeros. -/
def zeros (n : Int) : List Char := List.replicate n.toNat '0'

/-- The digits `c * 10 ^ e` with a point or an exponent. -/
def layOut (c : Nat) (e : Int) : List Char :=
  let ds := Nat.toDigits 10 c
  let point : Int := ds.length + e
  if 0 ≤ e && point ≤ 16 then ds ++ zeros e ++ ['.', '0']
  else if 0 < point && point ≤ 16 then ds.take point.toNat ++ ['.'] ++ ds.drop point.toNat
  else if -5 < point && point ≤ 0 then ['0', '.'] ++ zeros (-point) ++ ds
  else
    let exponent := ['e'] ++ (toString (point - 1)).toList
    match ds with
    | [d] => d :: exponent
    | d :: rest => d :: '.' :: rest ++ exponent
    | [] => exponent

/-- The shortest text of a finite number that reads back as it. -/
def text (x : Binary64) : String :=
  let sign := if x.negative then "-" else ""
  if x.magnitude = 0 then sign ++ "0.0"
  else
    let c := shortest x.parts.1 x.parts.2
    sign ++ String.ofList (layOut c.1 c.2)

/-- `m * 2 ^ q` rounded to an integer, a half to the even neighbour. -/
def nearestInteger (m : Nat) (q : Int) : Nat :=
  let unit := twoTo (-q).toNat
  let n := m * twoTo q.toNat / unit
  let rest := m * twoTo q.toNat % unit
  if 2 * rest < unit then n
  else if unit < 2 * rest then n + 1
  else if n % 2 = 0 then n else n + 1

/-- The number without decimal places; the sign of a negative number is kept even on zero. -/
def wholeText (x : Binary64) : String :=
  if x.isNaN then "NaN"
  else
    let sign := if x.negative then "-" else ""
    if x.isFinite then sign ++ toString (nearestInteger x.parts.1 x.parts.2) else sign ++ "inf"

/-- The number in percent, without decimal places. -/
def percentText (x : Binary64) : String := (ofFloat (x.toFloat * 100)).wholeText

end ReviewBot.Binary64

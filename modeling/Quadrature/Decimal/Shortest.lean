import Quadrature.Decimal.Binary64

/-!
# The fewest digits that read back

The reals that round to a double form an interval around it, closed exactly when the significand
is even. `shortest` looks at ever finer decimal grids, one, two, … seventeen digits, and on each
grid at the two neighbours of the value. The first grid with a neighbour in the interval wins; of
two such neighbours the nearer one, and of two equally near the larger one.

The grid with spacing `10 ^ k` is compared with the value over natural numbers, after both are
multiplied by the powers of ten and two that clear every negative exponent.
-/

namespace Quadrature.Decimal

/-- The number `digits · 10 ^ scale`. -/
structure Scaled where
  digits : Nat
  scale : Int
deriving DecidableEq

/-- The number of decimal digits of `n`, one for zero. -/
def digitCount (n : Nat) : Nat := (Nat.toDigits 10 n).length

/-- The exponent of the leading decimal digit of a positive value: `10 ^ k ≤ v < 10 ^ (k + 1)`. -/
def Magnitude.leadingExponent (v : Magnitude) : Int :=
  if v.den ≤ v.num then digitCount (v.num / v.den) - 1
  else -(digitCount ((v.den - 1) / v.num) : Int)

/-- The reals that round to a magnitude, in quarters of a unit of its last place: from
`4 m - below` to `4 m + 2`. The step below is half as wide where the significand is the smallest
normal one. -/
structure Neighbourhood where
  centre : Nat
  below : Nat
  closed : Bool
  exponent : Int

/-- The neighbourhood of a magnitude. -/
def Magnitude.neighbourhood (v : Magnitude) : Neighbourhood where
  centre := 4 * v.significand
  below := if v.significand = Binary64.hiddenBit then 1 else 2
  closed := v.significand % 2 == 0
  exponent := v.exponent - 2

namespace Neighbourhood

/-- `d · 10 ^ k`, times the common scale of the comparison. -/
def ofGrid (n : Neighbourhood) (k : Int) (d : Nat) : Nat :=
  d * Nat.pow 10 k.toNat * Nat.pow 2 (-n.exponent).toNat

/-- `q` quarters of a unit, times the common scale of the comparison. -/
def ofQuarters (n : Neighbourhood) (k : Int) (q : Nat) : Nat :=
  q * Nat.pow 2 n.exponent.toNat * Nat.pow 10 (-k).toNat

/-- Whether `d · 10 ^ k` rounds to the centre. -/
def contains (n : Neighbourhood) (k : Int) (d : Nat) : Bool :=
  let x := n.ofGrid k d
  let low := n.ofQuarters k (n.centre - n.below)
  let high := n.ofQuarters k (n.centre + 2)
  if n.closed then low ≤ x && x ≤ high else low < x && x < high

/-- The largest `d` with `d · 10 ^ k` not above the centre. -/
def floor (n : Neighbourhood) (k : Int) : Nat := n.ofQuarters k n.centre / n.ofGrid k 1

/-- The neighbour of the centre on the grid `10 ^ k` that rounds to it, if there is one. -/
def onGrid? (n : Neighbourhood) (k : Int) : Option Nat :=
  let d := n.floor k
  match n.contains k d, n.contains k (d + 1) with
  | false, false => none
  | true, false => some d
  | false, true => some (d + 1)
  | true, true =>
    if 2 * n.ofQuarters k n.centre < n.ofGrid k (2 * d + 1) then some d else some (d + 1)

/-- The first hit on the grids `10 ^ k`, `10 ^ (k - 1)`, …; the last grid answers with the
largest point not above the centre. -/
def search (n : Neighbourhood) : Nat → Int → Scaled
  | 0, k => ⟨n.floor k, k⟩
  | grids + 1, k =>
    match n.onGrid? k with
    | some d => ⟨d, k⟩
    | none => search n grids (k - 1)

end Neighbourhood

/-- The same number without trailing zeros among its digits. -/
def Scaled.stripZeros (d : Scaled) : Scaled :=
  if _h : d.digits ≠ 0 ∧ d.digits % 10 = 0 then
    stripZeros ⟨d.digits / 10, d.scale + 1⟩
  else d
termination_by d.digits
decreasing_by omega

/-- The decimal with the fewest digits that rounds to a positive magnitude. -/
def Magnitude.shortest (v : Magnitude) : Scaled :=
  (v.neighbourhood.search 17 v.leadingExponent).stripZeros

end Quadrature.Decimal

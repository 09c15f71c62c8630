/-!
# Exact values of doubles

A finite double is a sign and a natural significand `m` scaled by a power of two, `± m · 2 ^ q`.
`Binary64.of` takes a double apart, so that every decimal text can be computed exactly with
natural numbers.

* `Magnitude.num`, `Magnitude.den`: the value `m · 2 ^ q` as a quotient of natural numbers.
* `divRoundEven`: a quotient rounded to the nearest natural number, a tie to the even one.
-/

namespace Quadrature.Decimal

/-- The value `significand · 2 ^ exponent`. -/
structure Magnitude where
  significand : Nat
  exponent : Int
deriving DecidableEq

namespace Magnitude

/-- The numerator of the value. -/
def num (v : Magnitude) : Nat := v.significand * Nat.pow 2 v.exponent.toNat

/-- The denominator of the value, a power of two. -/
def den (v : Magnitude) : Nat := Nat.pow 2 (-v.exponent).toNat

end Magnitude

/-- What a double stands for. -/
inductive Binary64 where
  | nan
  | infinite (negative : Bool)
  | finite (negative : Bool) (magnitude : Magnitude)
deriving DecidableEq

namespace Binary64

/-- The smallest significand of a normal double, `2 ^ 52`. -/
def hiddenBit : Nat := 4503599627370496

/-- The weight of the sign bit, `2 ^ 63`. -/
def signBit : Nat := 9223372036854775808

/-- The exponent of the subnormal doubles. -/
def leastExponent : Int := -1074

/-- The value in 64 bits: a sign bit, eleven bits of exponent and 52 bits of fraction. -/
def ofBits (bits : Nat) : Binary64 :=
  let negative := bits / signBit % 2 == 1
  let exponent := bits / hiddenBit % 2048
  let fraction := bits % hiddenBit
  if exponent = 2047 then
    if fraction = 0 then infinite negative else nan
  else if exponent = 0 then finite negative ⟨fraction, leastExponent⟩
  else finite negative ⟨hiddenBit + fraction, leastExponent + (exponent - 1 : Nat)⟩

/-- The value of a double. -/
def of (x : Float) : Binary64 := ofBits x.toBits.toNat

end Binary64

/-- `num / den` rounded to the nearest natural number, a tie to the even one. -/
def divRoundEven (num den : Nat) : Nat :=
  let quotient := num / den
  let twice := 2 * (num % den)
  if twice < den || (twice == den && quotient % 2 == 0) then quotient else quotient + 1

end Quadrature.Decimal

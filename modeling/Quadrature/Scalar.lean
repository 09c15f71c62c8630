import Quadrature.Decimal.Layout
import Quadrature.Decimal.Literal

/-!
# Numbers that expressions are evaluated over

Sampling and summation use their numbers only through three small classes, which assume no law:
doubles are one instance, and any other arithmetic, an exact one for instance, may take its place.

* `Scalar`: the four operations, comparison, and the count of whole steps in a quotient.
* `Elementary`: the transcendental functions and the power.
* `Literal`: how a number is read from a token and written in a text.
-/

namespace Quadrature

/-- Arithmetic and comparison. -/
class Scalar (α : Type) extends Add α, Sub α, Mul α, Div α, Neg α where
  /-- A natural number, rounded. -/
  ofNat : Nat → α
  /-- One half. -/
  half : α
  abs : α → α
  lt : α → α → Bool
  le : α → α → Bool
  /-- Numerical equality, false beside a value that is not a number. -/
  eq : α → α → Bool
  isFinite : α → Bool
  /-- The integer part of a value, at least `0` and at most `2 ^ 64 - 1`. -/
  wholePart : α → Nat

/-- The functions that an expression may apply. -/
class Elementary (α : Type) extends Scalar α where
  sin : α → α
  cos : α → α
  tan : α → α
  ln : α → α
  exp : α → α
  pow : α → α → α

/-- How numbers are read and written. -/
class Literal (α : Type) where
  /-- The number that a token writes, if it writes one. -/
  read? : String → Option α
  /-- The shortest text of a number. -/
  text : α → String
  /-- Its text with an exponent. -/
  scientific : α → String
  /-- Its text with at least one decimal place. -/
  precise : α → String

namespace Scalar

variable {α : Type} [Scalar α]

/-- Positive and finite. -/
def isPositive (x : α) : Bool := isFinite x && lt (ofNat 0) x

/-- The smaller of two values, the second one unless the first is smaller; so of two zeros it is the
second one, whatever their signs. -/
@[inline] def least (x y : α) : α := if lt x y then x else y

end Scalar

/-- The double nearest to a natural number. Numbers of 32 bits are doubles, and are converted as
machine words. -/
@[inline] def nearest (n : Nat) : Float :=
  if n ≤ 4294967295 then n.toUInt64.toFloat else Float.ofNat n

@[always_inline, inline]
instance : Scalar Float where
  ofNat := nearest
  half := 0.5
  abs x := x.abs
  lt x y := x < y
  le x y := x ≤ y
  eq x y := x == y
  isFinite x := x.isFinite
  wholePart x := x.toUInt64.toNat

@[always_inline, inline]
instance : Elementary Float where
  sin := Float.sin
  cos := Float.cos
  tan := Float.tan
  ln := Float.log
  exp := Float.exp
  pow := Float.pow

instance : Literal Float where
  read? := Decimal.readDouble?
  text := Decimal.Layout.plain.text
  scientific := Decimal.Layout.scientific.text
  precise := Decimal.Layout.precise.text

end Quadrature

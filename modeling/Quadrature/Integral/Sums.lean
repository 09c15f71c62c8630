import Quadrature.Scalar

/-!
# Three estimates of an integral

The Riemann sum, the lower and the upper Darboux sum, and how far apart they are.
-/

namespace Quadrature

/-- Estimates of one integral. -/
structure Sums (α : Type) where
  riemann : α
  lower : α
  upper : α
deriving DecidableEq

namespace Sums

variable {α : Type} [Scalar α]

/-- The estimates of the integral over the reversed interval. -/
def negated (s : Sums α) : Sums α := ⟨-s.riemann, -s.lower, -s.upper⟩

/-- The distance between the Darboux sums. -/
def difference (s : Sums α) : α := Scalar.abs (s.upper - s.lower)

/-- The average of the Darboux sums. -/
def average (s : Sums α) : α := (s.upper + s.lower) / Scalar.ofNat 2

/-- The distance between the Riemann sum and the average of the Darboux sums. -/
def deviation (s : Sums α) : α := Scalar.abs (s.average - s.riemann)

end Sums

end Quadrature

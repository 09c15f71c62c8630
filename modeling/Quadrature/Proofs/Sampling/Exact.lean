import Mathlib.Algebra.Order.Floor.Semiring
import Mathlib.Data.Rat.Floor
import Quadrature.Proofs.Sampling.Earliest

/-!
# Exact arithmetic

Searches and sums over the rational numbers. Nothing is rounded and every value is a number; only
the count of whole steps is cut to a machine word, as it is for doubles.

* `Exact.scalar`, `Exact.ordered`: the rational numbers as an ordered arithmetic. The instances are
  scoped, for the operations of a `Scalar` are to be those of doubles everywhere else.
* `Exact.between`: a search looks between the ends of its grid.
-/

namespace Quadrature.Exact

scoped instance scalar : Scalar ℚ where
  ofNat n := n
  half := 1 / 2
  abs x := |x|
  lt x y := decide (x < y)
  le x y := decide (x ≤ y)
  eq x y := decide (x = y)
  isFinite _ := true
  wholePart x := min ⌊x⌋₊ (2 ^ 64 - 1)

open Scalar

@[simp] theorem lt_iff {x y : ℚ} : lt x y = true ↔ x < y := decide_eq_true_iff

@[simp] theorem le_iff {x y : ℚ} : le x y = true ↔ x ≤ y := decide_eq_true_iff

@[simp] theorem ofNat_eq (n : ℕ) : (ofNat n : ℚ) = n := rfl

@[simp] theorem isFinite_eq (x : ℚ) : isFinite x = true := rfl

@[simp] theorem isNumber (x : ℚ) : IsNumber x := le_iff.2 le_rfl

@[simp] theorem isPositive_iff {x : ℚ} : isPositive x = true ↔ 0 < x := by
  simp [isPositive]

@[simp] theorem least_eq (x y : ℚ) : least x y = min x y := by
  unfold least
  rcases lt_or_ge x y with h | h
  · rw [if_pos (lt_iff.2 h), min_eq_left h.le]
  · rw [if_neg (mt lt_iff.1 h.not_gt), min_eq_right h]

scoped instance ordered : OrderedScalar ℚ where
  isNumber_of_le _ := ⟨isNumber _, isNumber _⟩
  le_trans h h' := le_iff.2 ((le_iff.1 h).trans (le_iff.1 h'))
  le_total _ _ := by simpa using le_total _ _
  lt_iff := by
    intro x y
    rw [lt_iff, le_iff, le_iff, lt_iff_le_not_ge]
  isNumber_zero := isNumber _
  isNumber_of_add _ := ⟨isNumber _, isNumber _⟩
  isNumber_of_mul _ := ⟨isNumber _, isNumber _⟩
  isNumber_of_neg _ := isNumber _
  add_le_add h h' _ _ := le_iff.2 (add_le_add (le_iff.1 h) (le_iff.1 h'))
  mul_le_mul h hy _ _ _ :=
    le_iff.2 (mul_le_mul_of_nonneg_right (le_iff.1 h) (by simpa using le_iff.1 hy))
  neg_le_neg h := le_iff.2 (neg_le_neg (le_iff.1 h))

/-! ### Searches -/

section Grid

variable {g : Grid ℚ}

/-- A search looks between the ends of its grid. -/
theorem between (hstep : 0 ≤ g.step) (hle : g.lo ≤ g.hi) {x : ℚ} (hx : g.Samples x) :
    g.lo ≤ x ∧ x ≤ g.hi := by
  cases hx with
  | lo => exact ⟨le_rfl, hle⟩
  | @point j hj =>
    have hadd : g.lo ≤ g.lo + ((j + 1 : ℕ) : ℚ) * g.step :=
      le_add_of_nonneg_right (mul_nonneg (Nat.cast_nonneg _) hstep)
    simp only [Grid.point, least_eq]
    exact ⟨le_min hadd hle, min_le_right _ _⟩
  | hi => exact ⟨hle, le_rfl⟩

/-- A grid with a positive step and ascending ends can be searched. -/
theorem unmet?_eq_none (hstep : 0 < g.step) (hle : g.lo ≤ g.hi) : g.unmet? = none :=
  (Grid.unmet?_eq_none_iff (isPositive_iff.2 hstep)).2 ⟨rfl, rfl, le_iff.2 hle⟩

end Grid

end Quadrature.Exact

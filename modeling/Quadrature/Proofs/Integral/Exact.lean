import Mathlib.Algebra.BigOperators.Intervals
import Mathlib.Analysis.SpecialFunctions.Integrals.Basic
import Quadrature.Proofs.Integral.Monotone
import Quadrature.Proofs.Sampling.Exact

/-!
# Partitions in exact arithmetic

Over the rational numbers the parts of a partition are equally wide and fill the interval, so sums
over them telescope (`sum_eq_sub`). The Riemann sums at the right and at the left ends differ by the
difference of the values at the ends of the interval, and the integral of a linear function is found
by the midpoint rule, by the mean of the other two rules and by the mean of the Darboux sums, in
whatever steps the parts are searched (`partition_exact`).
-/

namespace Quadrature.Exact

open Finset

section Parts

/-! ### Parts and sums -/

variable {p : Partition ℚ} {step : ℚ} {f F : ℚ → ℚ} {value : ℕ → ℚ}

theorem width_eq (p : Partition ℚ) : p.width = (p.hi - p.lo) / p.parts := rfl

/-- A running sum is a sum. -/
theorem sum_eq (p : Partition ℚ) (value : ℕ → ℚ) :
    p.sum value = ∑ i ∈ range p.parts, value i * p.width := by
  have hfold : ∀ n : ℕ, n.fold (fun i _ s => s + value i * p.width) (Scalar.ofNat 0) =
      ∑ i ∈ range n, value i * p.width := by
    intro n
    induction n with
    | zero => simp
    | succ n ih => rw [Nat.fold_succ, ih, sum_range_succ]
  exact hfold p.parts

/-- The last point is where the others lead. -/
theorem point_eq (h : 1 ≤ p.parts) (i : ℕ) : p.point i = p.lo + i * p.width := by
  by_cases hi : i = p.parts
  · have hne : (p.parts : ℚ) ≠ 0 := Nat.cast_ne_zero.2 (by omega)
    rw [hi, p.point_parts, width_eq, mul_div_cancel₀ _ hne]
    ring
  · exact if_neg hi

theorem point_zero (h : 1 ≤ p.parts) : p.point 0 = p.lo := by
  simp [point_eq h]

theorem point_succ (h : 1 ≤ p.parts) (i : ℕ) : p.point (i + 1) = p.point i + p.width := by
  rw [point_eq h, point_eq h]
  push_cast
  ring

/-- The middle of a part. -/
theorem sample_midpoint (h : 1 ≤ p.parts) (i : ℕ) :
    p.sample .midpoint i = (p.point i + p.point (i + 1)) / 2 := by
  have hsample : p.sample .midpoint i = p.lo + (i + 1 / 2) * p.width := rfl
  rw [hsample, point_succ h, point_eq h]
  ring

/-- **Sums telescope** if each term is the growth of a function over its part. -/
theorem sum_eq_sub (h : 1 ≤ p.parts)
    (hF : ∀ i < p.parts, value i * p.width = F (p.point (i + 1)) - F (p.point i)) :
    p.sum value = F p.hi - F p.lo := by
  calc p.sum value = ∑ i ∈ range p.parts, (F (p.point (i + 1)) - F (p.point i)) := by
        rw [sum_eq]
        exact sum_congr rfl fun i hi => hF i (mem_range.1 hi)
    _ = F (p.point p.parts) - F (p.point 0) := sum_range_sub (fun i => F (p.point i)) p.parts
    _ = F p.hi - F p.lo := by rw [p.point_parts, point_zero h]

theorem sum_sub_sum (p : Partition ℚ) (v w : ℕ → ℚ) :
    p.sum v - p.sum w = p.sum fun i => v i - w i := by
  simp only [sum_eq, sub_mul, sum_sub_distrib]

theorem mean_sum (p : Partition ℚ) (v w : ℕ → ℚ) :
    (p.sum v + p.sum w) / 2 = p.sum fun i => (v i + w i) / 2 := by
  rw [sum_eq, sum_eq, sum_eq, ← sum_add_distrib, sum_div]
  refine sum_congr rfl ?_
  intro i _
  ring

/-- **The right sum and the left sum.** -/
theorem right_sub_left (h : 1 ≤ p.parts) (f : ℚ → ℚ) :
    p.riemann .right f - p.riemann .left f = (f p.hi - f p.lo) * p.width := by
  have hsub : p.riemann .right f - p.riemann .left f =
      p.sum fun i => f (p.point (i + 1)) - f (p.point i) := sum_sub_sum p _ _
  rw [hsub, sum_eq_sub (F := fun x => f x * p.width) h fun i _ => sub_mul _ _ _, sub_mul]

/-! ### The parts are searched inside -/

theorem point_mono (h : 1 ≤ p.parts) (hle : p.lo ≤ p.hi) {i j : ℕ} (hij : i ≤ j) :
    p.point i ≤ p.point j := by
  have hwidth : 0 ≤ p.width := div_nonneg (sub_nonneg.2 hle) (Nat.cast_nonneg _)
  have hmul : (i : ℚ) * p.width ≤ j * p.width :=
    mul_le_mul_of_nonneg_right (Nat.cast_le.2 hij) hwidth
  rw [point_eq h, point_eq h]
  linarith

theorem nested (h : 1 ≤ p.parts) (hle : p.lo ≤ p.hi) (hstep : 0 < step) : p.Nested step where
  samples i _ x hx := by
    obtain ⟨hlo, hhi⟩ :=
      between (g := p.grid step i) hstep.le (point_mono h hle i.le_succ) hx
    exact ⟨le_iff.2 hlo, le_iff.2 hhi⟩
  points i hi := by
    have hlo := point_mono h hle i.zero_le
    have hhi := point_mono h hle hi
    rw [point_zero h] at hlo
    rw [p.point_parts] at hhi
    exact ⟨le_iff.2 hlo, le_iff.2 hhi⟩

/-- The Darboux sums are taken, whatever the positive step of the search. -/
theorem darboux?_eq (h : 1 ≤ p.parts) (hle : p.lo ≤ p.hi) (hstep : 0 < step) (k : Extremum)
    (f : ℚ → ℚ) : p.darboux? step k f = .ok (p.darboux step k f) := by
  have hunmet : p.unmet? step = none := by
    rw [Partition.unmet?_eq_none_iff]
    intro i _
    exact unmet?_eq_none hstep (point_mono h hle i.le_succ)
  rw [Partition.darboux?, if_pos (le_iff.2 hle), hunmet]

theorem riemann?_eq (hle : p.lo ≤ p.hi) (r : Rule) (f : ℚ → ℚ) :
    p.riemann? r f = .ok (p.riemann r f) :=
  if_pos (le_iff.2 hle)

/-- **The Darboux sums of a monotone function** add up to those at the ends of the parts. -/
theorem darboux_add (hn : p.Nested step) {k : Extremum} (hk : k.WorsensOn f p.lo p.hi) :
    p.darboux step .min f + p.darboux step .max f = p.riemann .left f + p.riemann .right f := by
  have hleft : p.darboux step k f = p.riemann .left f := Partition.darboux_eq_left hk hn
  have hright : p.darboux step k.other f = p.riemann .right f := by
    refine Partition.sum_congr ?_
    intro i hi
    obtain ⟨-, hle, hge⟩ := Partition.extremum_part hk hn hi
    exact le_antisymm (le_iff.1 hle) (le_iff.1 hge)
  rw [← hleft, ← hright]
  cases k with
  | min => rfl
  | max => exact add_comm _ _

end Parts

/-! ### Linear functions -/

/-- A linear function. -/
def line (slope offset x : ℚ) : ℚ := slope * x + offset

/-- The mean of the values at the ends, times the length. -/
def trapezoid (f : ℚ → ℚ) (a b : ℚ) : ℚ := (f a + f b) / 2 * (b - a)

variable {slope offset : ℚ}

/-- A linear function is monotone. -/
theorem exists_worsensOn_line (slope offset a b : ℚ) :
    ∃ k : Extremum, k.WorsensOn (line slope offset) a b := by
  rcases le_total 0 slope with h | h
  · refine ⟨.min, ?_⟩
    intro x y _ hxy _
    have hmul := mul_le_mul_of_nonneg_left (le_iff.1 hxy) h
    exact le_iff.2 (add_le_add_left hmul offset)
  · refine ⟨.max, ?_⟩
    intro x y _ hxy _
    have hmul := mul_le_mul_of_nonpos_left (le_iff.1 hxy) h
    exact le_iff.2 (add_le_add_left hmul offset)

theorem line_mean (x y : ℚ) :
    line slope offset ((x + y) / 2) = (line slope offset x + line slope offset y) / 2 := by
  unfold line
  ring

/-- Trapezoids under a line side by side. -/
theorem trapezoid_line (x y : ℚ) :
    trapezoid (line slope offset) x y =
      (slope * y ^ 2 / 2 + offset * y) - (slope * x ^ 2 / 2 + offset * x) := by
  unfold trapezoid line
  ring

/-- The trapezoid under a line is its integral. -/
theorem trapezoid_eq_integral (slope offset a b : ℚ) :
    ((trapezoid (line slope offset) a b : ℚ) : ℝ) = ∫ x in (a : ℝ)..b, (slope * x + offset : ℝ) := by
  have hlinear : IntervalIntegrable (fun x : ℝ => (slope : ℝ) * x) MeasureTheory.volume a b :=
    (continuous_const.mul continuous_id).intervalIntegrable _ _
  rw [trapezoid_line, intervalIntegral.integral_add hlinear intervalIntegrable_const,
    intervalIntegral.integral_const_mul, integral_id, intervalIntegral.integral_const, smul_eq_mul]
  push_cast
  ring

variable {p : Partition ℚ}

/-- **The means of the values at the ends of the parts** add up to the trapezoid. -/
theorem sum_mean_line (h : 1 ≤ p.parts) :
    (p.sum fun i => (line slope offset (p.point i) + line slope offset (p.point (i + 1))) / 2) =
      trapezoid (line slope offset) p.lo p.hi := by
  rw [trapezoid_line]
  refine sum_eq_sub (F := fun x => slope * x ^ 2 / 2 + offset * x) h ?_
  intro i _
  have hwidth : p.width = p.point (i + 1) - p.point i := by
    rw [point_succ h, add_sub_cancel_left]
  rw [hwidth]
  exact trapezoid_line _ _

theorem riemann_midpoint_line (h : 1 ≤ p.parts) :
    p.riemann .midpoint (line slope offset) = trapezoid (line slope offset) p.lo p.hi := by
  rw [← sum_mean_line h]
  refine Partition.sum_congr ?_
  intro i _
  rw [sample_midpoint h, line_mean]

theorem mean_riemann_line (h : 1 ≤ p.parts) :
    (p.riemann .left (line slope offset) + p.riemann .right (line slope offset)) / 2 =
      trapezoid (line slope offset) p.lo p.hi := by
  rw [← sum_mean_line h]
  exact mean_sum p _ _

/-- **Partitions in exact arithmetic.** The parts have the same width, share their ends and fill the
interval. For every function the sum at the right ends is larger than that at the left ends by the
growth of the function times the width of a part. For every linear function, and every step of the
search, the midpoint rule, the mean of the two other rules and the mean of the Darboux sums are the
integral. -/
theorem partition_exact {p : Partition ℚ} (hparts : 1 ≤ p.parts) (hlt : p.lo < p.hi) :
    (∀ step, (p.grid step 0).lo = p.lo ∧ (p.grid step (p.parts - 1)).hi = p.hi ∧
      ∀ i, (p.grid step i).hi = (p.grid step (i + 1)).lo ∧
        (p.grid step i).hi - (p.grid step i).lo = (p.hi - p.lo) / p.parts) ∧
    (∀ f : ℚ → ℚ, ∃ left right, p.riemann? .left f = .ok left ∧ p.riemann? .right f = .ok right ∧
      right - left = (f p.hi - f p.lo) * ((p.hi - p.lo) / p.parts)) ∧
    ∀ slope offset step : ℚ, 0 < step → ∃ left right midpoint lower upper,
      p.riemann? .left (line slope offset) = .ok left ∧
      p.riemann? .right (line slope offset) = .ok right ∧
      p.riemann? .midpoint (line slope offset) = .ok midpoint ∧
      p.darboux? step .min (line slope offset) = .ok lower ∧
      p.darboux? step .max (line slope offset) = .ok upper ∧
      midpoint = trapezoid (line slope offset) p.lo p.hi ∧
      (left + right) / 2 = trapezoid (line slope offset) p.lo p.hi ∧
      (lower + upper) / 2 = trapezoid (line slope offset) p.lo p.hi ∧
      ((trapezoid (line slope offset) p.lo p.hi : ℚ) : ℝ) =
        ∫ x in (p.lo : ℝ)..p.hi, (slope * x + offset : ℝ) := by
  have hle := hlt.le
  refine ⟨?_, ?_, ?_⟩
  · intro step
    refine ⟨point_zero hparts, ?_, ?_⟩
    · have hlast : p.parts - 1 + 1 = p.parts := Nat.sub_add_cancel hparts
      simp only [Partition.grid, hlast, p.point_parts]
    · intro i
      refine ⟨rfl, ?_⟩
      simp only [Partition.grid, point_succ hparts, add_sub_cancel_left, width_eq]
  · intro f
    exact ⟨_, _, riemann?_eq hle .left f, riemann?_eq hle .right f, right_sub_left hparts f⟩
  · intro slope offset step hstep
    obtain ⟨k, hk⟩ := exists_worsensOn_line slope offset p.lo p.hi
    refine ⟨_, _, _, _, _, riemann?_eq hle .left _, riemann?_eq hle .right _,
      riemann?_eq hle .midpoint _, darboux?_eq hparts hle hstep .min _,
      darboux?_eq hparts hle hstep .max _, riemann_midpoint_line hparts, mean_riemann_line hparts,
      ?_, trapezoid_eq_integral slope offset p.lo p.hi⟩
    rw [darboux_add (nested hparts hle hstep) hk, mean_riemann_line hparts]

/-- Three parts of the unit interval: the square at their ends, and a line that descends through
them, searched in steps that do not divide them. -/
theorem partition_thirds :
    (∃ left right, (⟨0, 1, 3⟩ : Partition ℚ).riemann? .left (fun x => x ^ 2) = .ok left ∧
      (⟨0, 1, 3⟩ : Partition ℚ).riemann? .right (fun x => x ^ 2) = .ok right ∧
      right - left = 1 / 3) ∧
    ∃ lower upper, (⟨0, 1, 3⟩ : Partition ℚ).darboux? (1 / 7) .min (line (-3) 1) = .ok lower ∧
      (⟨0, 1, 3⟩ : Partition ℚ).darboux? (1 / 7) .max (line (-3) 1) = .ok upper ∧
      (lower + upper) / 2 = -1 / 2 := by
  obtain ⟨-, hends, hline⟩ :=
    partition_exact (p := ⟨0, 1, 3⟩) (by decide) (by norm_num)
  obtain ⟨left, right, hleft, hright, hsub⟩ := hends fun x => x ^ 2
  obtain ⟨-, -, -, lower, upper, -, -, -, hlower, hupper, -, -, hmean, -⟩ :=
    hline (-3) 1 (1 / 7) (by norm_num)
  refine ⟨⟨left, right, hleft, hright, ?_⟩, lower, upper, hlower, hupper, ?_⟩
  · rw [hsub]
    norm_num
  · rw [hmean]
    norm_num [trapezoid, line]

end Quadrature.Exact

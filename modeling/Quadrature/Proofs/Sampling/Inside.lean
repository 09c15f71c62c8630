import Quadrature.Proofs.Double.Ordered
import Quadrature.Proofs.Sampling.Earliest

/-!
# The samples of a search stay inside

A step away from the left end is not below it, however it is rounded, and a grid point beyond the
right end is cut off there. So a search over doubles looks between the ends of its grid
(`Grid.Stands.between`), and from left to right (`Grid.Stands.place_le_place`).
-/

namespace Quadrature

open Scalar

/-! ### Cutting off -/

section Least

variable {α : Type} [Scalar α] [OrderedScalar α] {x x' y : α}

theorem least_le_right (hy : IsNumber y) : le (least x y) y = true := by
  unfold least
  split
  · rename_i h
    exact (OrderedScalar.lt_iff.1 h).1
  · exact hy

/-- **Cutting off is monotone.** -/
theorem least_mono (h : le x x' = true) (hy : IsNumber y) :
    le (least x y) (least x' y) = true := by
  by_cases hx' : lt x' y = true
  · -- what is below a value that is not cut off is not cut off either
    have hlt := OrderedScalar.lt_iff.1 hx'
    have hx : lt x y = true := by
      refine OrderedScalar.lt_iff.2 ⟨OrderedScalar.le_trans h hlt.1, ?_⟩
      intro hyx
      exact hlt.2 (OrderedScalar.le_trans hyx h)
    simp only [least, hx, hx', if_true]
    exact h
  · have hcut : least x' y = y := if_neg hx'
    rw [hcut]
    exact least_le_right hy

end Least

open Double

/-! ### Grids over doubles -/

/-- A positive double stands for a positive rational number. -/
theorem isPositive_iff {x : Float} :
    isPositive x = true ↔ ∃ σ : ℚ, 0 < σ ∧ value? x = some (σ : Number) := by
  have hzero : value? (ofNat 0 : Float) = some ((0 : ℚ) : Number) :=
    value?_nearest_of_le (n := 0) (by norm_num)
  have hlt : ∀ {σ : ℚ}, value? x = some (σ : Number) → (lt (ofNat 0) x = true ↔ 0 < σ) := by
    intro σ hσ
    change decide (ofNat 0 < x) = true ↔ _
    rw [decide_eq_true_iff, lt_iff hzero hσ]
    norm_cast
  unfold isPositive
  rw [Bool.and_eq_true]
  constructor
  · rintro ⟨hfinite, hpositive⟩
    obtain ⟨σ, hσ⟩ := isFinite_iff.1 hfinite
    exact ⟨σ, (hlt hσ).1 hpositive, hσ⟩
  · rintro ⟨σ, hpos, hσ⟩
    exact ⟨isFinite_iff.2 ⟨σ, hσ⟩, (hlt hσ).2 hpos⟩

/-- A finite ascending interval with a positive step, and what its doubles stand for. -/
structure Grid.Stands (g : Grid Float) (a b σ : ℚ) : Prop where
  lo : value? g.lo = some (a : Number)
  hi : value? g.hi = some (b : Number)
  step : value? g.step = some (σ : Number)
  le : a ≤ b
  pos : 0 < σ

namespace Grid.Stands

variable {g : Grid Float} {a b σ : ℚ} {i j : ℕ}

theorem lo_le_hi (h : g.Stands a b σ) : g.lo ≤ g.hi :=
  (le_iff h.lo h.hi).2 (by exact_mod_cast h.le)

theorem lo_le_lo (h : g.Stands a b σ) : g.lo ≤ g.lo := (le_iff h.lo h.lo).2 le_rfl

theorem hi_le_hi (h : g.Stands a b σ) : g.hi ≤ g.hi := (le_iff h.hi h.hi).2 le_rfl

theorem steps_lt (g : Grid Float) : g.steps < 2 ^ 64 := UInt64.toNat_lt _

/-- The number of a grid point is rounded to a finite double. -/
theorem exists_value_nearest (hi : i ≤ 2 ^ 64) :
    ∃ c : ℚ, 0 ≤ c ∧ value? (nearest i) = some (c : Number) := by
  have hle : |(i : ℚ)| ≤ 2 ^ (64 : ℤ) := by
    rw [Nat.abs_cast]
    exact_mod_cast hi
  refine ⟨near i, near_nonneg (Nat.cast_nonneg i), ?_⟩
  rw [value?_nearest, rounded_of_abs_le hle (by norm_num) (by norm_num)]

/-- A number of steps may be infinite, but it is a number. -/
theorem exists_value_mul (h : g.Stands a b σ) (hi : i ≤ 2 ^ 64) :
    ∃ v, value? (nearest i * g.step) = some v ∧ (v = ⊤ ∨ ∃ r : ℚ, 0 ≤ r ∧ v = (r : Number)) := by
  obtain ⟨c, hc, hvalue⟩ := exists_value_nearest hi
  exact ⟨_, value?_mul hvalue h.step, rounded_nonneg (mul_nonneg hc h.pos.le)⟩

/-- **A number of steps away from the left end** is not below it. -/
theorem exists_value_add (h : g.Stands a b σ) (hi : i ≤ 2 ^ 64) :
    ∃ v, value? (g.lo + nearest i * g.step) = some v ∧ (a : Number) ≤ v := by
  obtain ⟨v, hmul, rfl | ⟨r, hr, rfl⟩⟩ := h.exists_value_mul hi
  · exact ⟨⊤, value?_add_top h.lo hmul, le_top⟩
  · refine ⟨_, value?_add h.lo hmul, ?_⟩
    rw [← rounded_of_value? h.lo]
    exact rounded_mono (by linarith)

theorem isNumber_add (h : g.Stands a b σ) (hi : i ≤ 2 ^ 64) :
    IsNumber (g.lo + nearest i * g.step) := by
  obtain ⟨v, hv, -⟩ := h.exists_value_add hi
  exact isNumber_iff.2 ⟨v, hv⟩

/-- **Grid points lie between the ends.** -/
theorem point_between (h : g.Stands a b σ) (hi : i ≤ 2 ^ 64) :
    g.lo ≤ g.point i ∧ g.point i ≤ g.hi := by
  constructor
  · unfold point least
    split
    · obtain ⟨v, hv, hle⟩ := h.exists_value_add hi
      exact (le_iff h.lo hv).2 hle
    · exact h.lo_le_hi
  · exact scalar_le_iff.1 (least_le_right (scalar_le_iff.2 h.hi_le_hi))

/-- **More steps lead further**, rounded or not. -/
theorem point_le_point (h : g.Stands a b σ) (hij : i ≤ j) (hj : j ≤ 2 ^ 64) :
    g.point i ≤ g.point j := by
  have hcount : Scalar.le (nearest i) (nearest j) = true := by
    rw [scalar_le_iff, le_iff (value?_nearest i) (value?_nearest j)]
    exact rounded_mono (by exact_mod_cast hij)
  have hstep : Scalar.le (ofNat 0) g.step = true := by
    refine scalar_le_iff.2 ((le_iff (value?_nearest_of_le (n := 0) (by norm_num)) h.step).2 ?_)
    exact_mod_cast h.pos.le
  have hfinite : isFinite g.step = true := isFinite_iff.2 ⟨σ, h.step⟩
  have hnumber : ∀ m ≤ 2 ^ 64, IsNumber (nearest m * g.step) := by
    intro m hm
    obtain ⟨v, hv, -⟩ := h.exists_value_mul hm
    exact isNumber_iff.2 ⟨v, hv⟩
  have hi : i ≤ 2 ^ 64 := by omega
  have hmul := OrderedScalar.mul_le_mul hcount hstep hfinite (hnumber i hi) (hnumber j hj)
  have hadd := OrderedScalar.add_le_add (scalar_le_iff.2 h.lo_le_lo) hmul (h.isNumber_add hi)
    (h.isNumber_add hj)
  exact scalar_le_iff.1 (least_mono hadd (scalar_le_iff.2 h.hi_le_hi))

/-- **The samples of a search lie between its ends.** -/
theorem between (h : g.Stands a b σ) {x : Float} (hx : g.Samples x) : g.lo ≤ x ∧ x ≤ g.hi := by
  have hsteps := steps_lt g
  cases hx with
  | lo => exact ⟨h.lo_le_lo, h.lo_le_hi⟩
  | point hj => exact h.point_between (by omega)
  | hi => exact ⟨h.lo_le_hi, h.hi_le_hi⟩

/-- **A search goes from left to right.** -/
theorem place_le_place (h : g.Stands a b σ) (hi : i ≤ g.steps) : g.place i ≤ g.place (i + 1) := by
  have hsteps := steps_lt g
  rcases Nat.eq_zero_or_pos i with rfl | hpos
  · rw [place_zero]
    exact (h.between (samples_place (by omega))).1
  rcases hi.lt_or_eq with hlt | rfl
  · rw [place_of_le hpos hi, place_of_le (by omega) hlt]
    exact h.point_le_point (by omega) (by omega)
  · rw [place_last]
    exact (h.between (samples_place (by omega))).2

/-- A grid like this can be searched. -/
theorem unmet?_eq_none (h : g.Stands a b σ) : g.unmet? = none := by
  rw [unmet?_eq_none_iff (isPositive_iff.2 ⟨σ, h.pos, h.step⟩)]
  exact ⟨isFinite_iff.2 ⟨a, h.lo⟩, isFinite_iff.2 ⟨b, h.hi⟩, scalar_le_iff.2 h.lo_le_hi⟩

end Grid.Stands

end Quadrature

import Quadrature.Proofs.Double.Scientific
import Quadrature.Proofs.Integral.Samples
import Quadrature.Proofs.Integral.Width

/-!
# The points of an accepted request

A request that passes its checks has two finite ends, the left one below the right one
(`Plan.exists_stands`). Every point that the sums compute from the left end is one function of its
number, `place`, which is monotone (`place_mono`): the `i`-th point is `place i` and the middle of
the `i`-th part `place (i + 1 / 2)`.
-/

namespace Quadrature

open Double

/-- The ends that an accepted request stands for, with what its checks have made sure of. -/
structure Plan.Stands (p : Plan Float) (a b : ℚ) : Prop where
  lo : value? p.lo = some (a : Number)
  hi : value? p.hi = some (b : Number)
  lt : a < b
  width : |near (b - a)| < limit
  one_le : 1 ≤ p.fineness.refinement
  le : p.fineness.refinement ≤ 20000000
  step : Scalar.isPositive p.fineness.step = true

theorem Fineness.of_check {α : Type} [Scalar α] {s : Fineness α} (h : s.check = .ok ()) :
    1 ≤ s.refinement ∧ s.refinement ≤ 20000000 ∧ Scalar.isPositive s.step = true := by
  unfold check at h
  split at h
  · cases h
  rename_i hr
  split at h
  · cases h
  rename_i hs
  simp only [Bool.or_eq_true, not_or, Bool.not_eq_true] at hr
  simp only [Bool.not_eq_true', Bool.not_eq_false] at hs
  exact ⟨Nat.not_lt.1 (of_decide_eq_false hr.1), Nat.not_lt.1 (of_decide_eq_false hr.2), hs⟩

theorem value?_lt {x y : Float} {a b : ℚ} (hx : value? x = some (a : Number))
    (hy : value? y = some (b : Number)) : Scalar.lt x y = true ↔ a < b := by
  change decide (x < y) = true ↔ _
  rw [decide_eq_true_iff, lt_iff hx hy]
  norm_cast

/-- **An accepted request has finite, ascending ends.** -/
theorem Plan.exists_stands {s : Fineness Float} {start stop : Float} {p : Plan Float}
    (h : ofRequest s start stop = .ok p) : ∃ a b, p.Stands a b ∧ p.fineness = s := by
  obtain ⟨hstart, hstop, hne, hc, hw, hp⟩ := of_ofRequest h
  obtain ⟨hn, hn', hstep⟩ := Fineness.of_check hc
  obtain ⟨u, hu⟩ := isFinite_iff.1 hstart
  obtain ⟨v, hv⟩ := isFinite_iff.1 hstop
  have huv : u ≠ v := by
    rintro rfl
    have : (start == stop) = true := (beq_iff hu hv).2 rfl
    exact Bool.false_ne_true (hne.symm.trans this)
  -- the width is finite, so its rounding is in range
  obtain ⟨q, hq⟩ := isFinite_iff.1 hw
  have hwidth : ∀ {a b : ℚ}, value? p.lo = some (a : Number) → value? p.hi = some (b : Number) →
      |near (b - a)| < limit := by
    intro a b ha hb
    rw [value?_sub hb ha] at hq
    exact (abs_lt_of_inRange (Option.some.inj hq)).1
  -- the ends are exchanged if they descend
  by_cases hlt : Scalar.lt stop start = true
  · have hlo : p.lo = stop := by rw [hp, directed]; exact if_pos hlt
    have hhi : p.hi = start := by rw [hp, directed]; exact if_pos hlt
    have hf : p.fineness = s := by rw [hp]; rfl
    rw [hlo, hhi] at hwidth
    exact ⟨v, u, ⟨hlo ▸ hv, hhi ▸ hu, (value?_lt hv hu).1 hlt, hwidth hv hu, hf ▸ hn, hf ▸ hn',
      hf ▸ hstep⟩, hf⟩
  · have hlo : p.lo = start := by rw [hp, directed]; exact if_neg hlt
    have hhi : p.hi = stop := by rw [hp, directed]; exact if_neg hlt
    have hf : p.fineness = s := by rw [hp]; rfl
    have huv' : u < v := lt_of_le_of_ne (not_lt.1 (mt (value?_lt hv hu).2 hlt)) huv
    rw [hlo, hhi] at hwidth
    exact ⟨u, v, ⟨hlo ▸ hu, hhi ▸ hv, huv', hwidth hu hv, hf ▸ hn, hf ▸ hn', hf ▸ hstep⟩, hf⟩

/-- The place at `t` parts from the left end, as it is rounded. -/
def place (a b : ℚ) (n : ℕ) (t : ℚ) : Number :=
  rounded (a + near (t * near (near (b - a) / n)))

theorem place_mono {a b t t' : ℚ} {n : ℕ} (hab : a ≤ b) (h : t ≤ t') :
    place a b n t ≤ place a b n t' := by
  have hd : 0 ≤ near (near (b - a) / n) :=
    near_nonneg (div_nonneg (near_nonneg (by linarith)) (Nat.cast_nonneg n))
  refine rounded_mono ?_
  linarith [near_mono (mul_le_mul_of_nonneg_right h hd)]

namespace Plan.Stands

variable {p : Plan Float} {a b : ℚ} {i : ℕ}

theorem onGrid_lo (h : p.Stands a b) : OnGrid a := (hasValue_of_value? h.lo).1.onGrid

theorem onGrid_hi (h : p.Stands a b) : OnGrid b := (hasValue_of_value? h.hi).1.onGrid

theorem parts_pos (h : p.Stands a b) : (0 : ℚ) < p.fineness.refinement := by
  exact_mod_cast h.one_le

theorem parts_le (h : p.Stands a b) : p.fineness.refinement ≤ 2 ^ 53 := h.le.trans (by norm_num)

theorem near_width_nonneg (h : p.Stands a b) : 0 ≤ near (b - a) := near_nonneg (by linarith [h.lt])

theorem value?_width (h : p.Stands a b) : value? p.partition.width =
    some ((near (near (b - a) / p.fineness.refinement) : ℚ) : Number) := by
  have hsub : value? (p.hi - p.lo) = some ((near (b - a) : ℚ) : Number) := by
    rw [value?_sub h.hi h.lo, rounded, inRange_of_abs_lt h.width]
  have hdiv := value?_div hsub (value?_nearest_of_le h.parts_le) h.parts_pos.ne'
  refine hdiv.trans ?_
  rw [rounded, inRange_of_abs_lt]
  -- a part is not wider than the whole, which is in range
  have hw := div_nonneg h.near_width_nonneg h.parts_pos.le
  have hle : near (b - a) / p.fineness.refinement ≤ near (b - a) :=
    div_le_self h.near_width_nonneg (by exact_mod_cast h.one_le)
  have := near_mono hle
  rw [near_eq_self (onGrid_near _)] at this
  rw [abs_of_nonneg (near_nonneg hw)]
  exact this.trans_lt (lt_of_abs_lt h.width)

/-- Up to the middle of the last part the products with the width are finite. -/
theorem abs_near_mul_lt (h : p.Stands a b) {t : ℚ} (h0 : 0 ≤ t)
    (ht : t ≤ p.fineness.refinement - 1 / 2) :
    |near (t * near (near (b - a) / p.fineness.refinement))| < limit := by
  have hw := div_nonneg h.near_width_nonneg h.parts_pos.le
  rw [abs_of_nonneg (near_nonneg (mul_nonneg h0 (near_nonneg hw)))]
  have hmax := mul_near_le_max h.one_le h.le hw
  rw [mul_div_cancel₀ _ h.parts_pos.ne'] at hmax
  have hle := near_mono ((mul_le_mul_of_nonneg_right ht (near_nonneg hw)).trans hmax)
  refine hle.trans_lt ?_
  -- the product stays within the width, or is tiny
  rcases max_choice (near (b - a)) (2 ^ (-1021 : ℤ)) with hm | hm
  · rw [hm, near_eq_self (onGrid_near _)]
    exact lt_of_abs_lt h.width
  · rw [hm, near_eq_self (onGrid_two_zpow (by norm_num)), limit_eq]
    exact zpow_lt_zpow_right₀ one_lt_two (by norm_num)

theorem value?_mul_width (h : p.Stands a b) {x : Float} {t : ℚ}
    (hx : value? x = some (t : Number)) (h0 : 0 ≤ t) (ht : t ≤ p.fineness.refinement - 1 / 2) :
    value? (p.lo + x * p.partition.width) = some (place a b p.fineness.refinement t) := by
  have hmul := value?_mul hx h.value?_width
  rw [rounded, inRange_of_abs_lt (h.abs_near_mul_lt h0 ht)] at hmul
  exact value?_add h.lo hmul

theorem value?_point (h : p.Stands a b) (hi : i < p.fineness.refinement) :
    value? (p.partition.point i) = some (place a b p.fineness.refinement i) := by
  have hparts : ¬ i = p.partition.parts := hi.ne
  have hle : (i : ℚ) + 1 ≤ p.fineness.refinement := by exact_mod_cast hi
  have hle' := h.le
  unfold Partition.point
  rw [if_neg hparts]
  exact h.value?_mul_width (value?_nearest_of_le (by omega)) (Nat.cast_nonneg i) (by linarith)

theorem value?_midpoint (h : p.Stands a b) (hi : i < p.fineness.refinement) :
    value? (p.partition.sample .midpoint i) =
      some (place a b p.fineness.refinement (i + 1 / 2)) := by
  have hle : (i : ℚ) + 1 ≤ p.fineness.refinement := by exact_mod_cast hi
  have hle' := h.le
  have hi0 : (0 : ℚ) ≤ i := Nat.cast_nonneg i
  -- the number of the middle is not rounded: twice it is an integer
  have hgrid : OnGrid ((i : ℚ) + 1 / 2) := by
    refine ⟨2 * i + 1, -1, ?_, by norm_num, by push_cast; ring⟩
    rw [abs_of_nonneg (by omega)]
    norm_num
    omega
  have hsmall : |(i : ℚ) + 1 / 2| ≤ 2 ^ (25 : ℤ) := by
    have hi2 : (i : ℚ) ≤ 20000000 := by exact_mod_cast (by omega : i ≤ 20000000)
    rw [abs_of_nonneg (by linarith)]
    norm_num
    linarith
  have hsum := value?_add (value?_nearest_of_le (n := i) (by omega)) value?_half
  rw [rounded_eq_self hgrid hsmall (by norm_num) (by norm_num)] at hsum
  exact h.value?_mul_width hsum (by linarith) (by linarith)

theorem place_zero (h : p.Stands a b) : place a b p.fineness.refinement 0 = a := by
  rw [place, zero_mul, near_zero, add_zero, rounded_of_value? h.lo]

theorem le_place (h : p.Stands a b) {t : ℚ} (ht : 0 ≤ t) :
    (a : Number) ≤ place a b p.fineness.refinement t := by
  rw [← h.place_zero]
  exact place_mono h.lt.le ht

/-- **Wide enough, the middle of the last part is inside.** -/
theorem place_le (h : p.Stands a b)
    (hbig : (p.fineness.refinement : ℚ) ^ 2 * 2 ^ (-1074 : ℤ) ≤ near (b - a)) :
    place a b p.fineness.refinement (p.fineness.refinement - 1 / 2) ≤ (b : Number) := by
  have := near_mul_near_le h.one_le h.le h.onGrid_lo h.onGrid_hi h.lt hbig
  rw [← rounded_of_value? h.hi]
  exact rounded_mono (by linarith)

end Plan.Stands

end Quadrature

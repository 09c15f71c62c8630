import Quadrature.Proofs.Double.Rounding

/-!
# The rounded width of a part

An interval of width `b - a` is cut into `n` parts. The width is rounded, its `n`-th part is rounded
again, and so is the product with the number of a point. Up to the middle of the last part the
product stays within the width

* from the smallest normal double on, because half a part makes up for three roundings
  (`near_mul_near_le_of_normal`);
* below, where the difference is exact, if a part is at least `n` least doubles wide
  (`near_mul_near_le_of_subnormal`).

Without either, the excess is still tiny (`mul_near_le_max`).
-/

namespace Quadrature

open Double

variable {n : ℕ} {w D : ℚ}

theorem two_zpow_neg_53 : (2 : ℚ) ^ (-53 : ℤ) = 1 / 9007199254740992 := by norm_num

theorem near_le_mul {q : ℚ} (h : 0 ≤ q) :
    near q ≤ q * (1 + 1 / 9007199254740992) + 2 ^ (-1075 : ℤ) := by
  have := abs_near_sub_le_mul q
  rw [abs_of_nonneg h, two_zpow_neg_53] at this
  linarith [(abs_le.1 this).2]

theorem mul_near_le (hn : 1 ≤ n) (hw : 0 ≤ w) :
    (n - 1 / 2) * near w ≤ n * w * (1 + 1 / 9007199254740992) + n * 2 ^ (-1075 : ℤ) -
      (w * (1 + 1 / 9007199254740992) + 2 ^ (-1075 : ℤ)) / 2 := by
  have hn1 : (1 : ℚ) ≤ n := by exact_mod_cast hn
  calc (n - 1 / 2) * near w
      ≤ (n - 1 / 2) * (w * (1 + 1 / 9007199254740992) + 2 ^ (-1075 : ℤ)) :=
        mul_le_mul_of_nonneg_left (near_le_mul hw) (by linarith)
    _ = _ := by ring

theorem normal_eq : (2 : ℚ) ^ (-1022 : ℤ) = 9007199254740992 * 2 ^ (-1075 : ℤ) := by
  rw [show (9007199254740992 : ℚ) = 2 ^ (53 : ℤ) by norm_num, ← zpow_add₀ two_ne_zero]
  rfl

theorem normal_two_mul : (2 : ℚ) ^ (-1021 : ℤ) = 2 * 2 ^ (-1022 : ℤ) := by
  rw [← zpow_one_add₀ two_ne_zero]
  rfl

/-- From the smallest normal double on, half a part makes up for the rounding of the width. -/
theorem mul_near_le_of_normal (hn : 1 ≤ n) (hn' : n ≤ 20000000) (hw : 0 ≤ w)
    (hnormal : 2 ^ (-1022 : ℤ) ≤ n * w) : (n - 1 / 2) * near w ≤ n * w := by
  have hn2 : (n : ℚ) ≤ 20000000 := by exact_mod_cast hn'
  have hmul := mul_near_le hn hw
  have hh := two_zpow_pos (-1075)
  rw [normal_eq] at hnormal
  generalize (2 : ℚ) ^ (-1075 : ℤ) = h at hmul hh hnormal
  have hnw : n * w ≤ 20000000 * w := mul_le_mul_of_nonneg_right hn2 hw
  have hnh : n * h ≤ 20000000 * h := mul_le_mul_of_nonneg_right hn2 hh.le
  linarith

/-- Without that, little is missing. -/
theorem mul_near_le_max (hn : 1 ≤ n) (hn' : n ≤ 20000000) (hw : 0 ≤ w) :
    (n - 1 / 2) * near w ≤ max (n * w) (2 ^ (-1021 : ℤ)) := by
  by_cases hnormal : 2 ^ (-1022 : ℤ) ≤ n * w
  · exact le_max_of_le_left (mul_near_le_of_normal hn hn' hw hnormal)
  refine le_max_of_le_right ?_
  have hn2 : (n : ℚ) ≤ 20000000 := by exact_mod_cast hn'
  have hmul := mul_near_le hn hw
  have hh := two_zpow_pos (-1075)
  rw [normal_two_mul]
  rw [normal_eq] at hnormal ⊢
  generalize (2 : ℚ) ^ (-1075 : ℤ) = h at hmul hh hnormal ⊢
  have hnw : n * w ≤ 20000000 * w := mul_le_mul_of_nonneg_right hn2 hw
  have hnh : n * h ≤ 20000000 * h := mul_le_mul_of_nonneg_right hn2 hh.le
  linarith

theorem near_mul_near_le_of_normal (hn : 1 ≤ n) (hn' : n ≤ 20000000) (hD : 0 ≤ D) (hw : 0 ≤ w)
    (hnw : n * w = near D) (hnormal : 2 ^ (-1022 : ℤ) ≤ near D) :
    near ((n - 1 / 2) * near w) ≤ D := by
  have hn1 : (1 : ℚ) ≤ n := by exact_mod_cast hn
  have hn2 : (n : ℚ) ≤ 20000000 := by exact_mod_cast hn'
  have hW := near_le_mul hD
  have hmul := mul_near_le hn hw
  have hx := near_le_mul (mul_nonneg (by linarith : (0 : ℚ) ≤ n - 1 / 2) (near_nonneg hw))
  have hh := two_zpow_pos (-1075)
  rw [normal_eq] at hnormal
  generalize (2 : ℚ) ^ (-1075 : ℤ) = h at hW hmul hx hh hnormal
  have hnw' : n * w ≤ 20000000 * w := mul_le_mul_of_nonneg_right hn2 hw
  have hnh : n * h ≤ 20000000 * h := mul_le_mul_of_nonneg_right hn2 hh.le
  linarith

/-- Below it the width is exact, and each part loses at most half a least double. -/
theorem near_mul_near_le_of_subnormal (hn : 1 ≤ n) (hgrid : OnGrid D) (hw : 0 ≤ w)
    (hnw : n * w = D) (hsub : D < 2 ^ (-1022 : ℤ)) (hbig : (n : ℚ) ^ 2 * 2 ^ (-1074 : ℤ) ≤ D) :
    near ((n - 1 / 2) * near w) ≤ D := by
  have hn1 : (1 : ℚ) ≤ n := by exact_mod_cast hn
  have hD : 0 < D := by
    refine lt_of_lt_of_le ?_ hbig
    exact mul_pos (pow_pos (by linarith) 2) (two_zpow_pos _)
  have hw0 : 0 < w := by
    refine hw.lt_of_ne ?_
    rintro rfl
    rw [mul_zero] at hnw
    exact hD.ne hnw
  have hle : w ≤ n * w := le_mul_of_one_le_left hw hn1
  have hexp : gridExp w = -1074 := by
    refine gridExp_of_lt hw0.ne' ?_
    rw [abs_of_pos hw0]
    calc w ≤ D := hnw ▸ hle
      _ < 2 ^ (-1022 : ℤ) := hsub
      _ ≤ 2 ^ (-1021 : ℤ) := two_zpow_le (by norm_num)
  have hnear : near w ≤ w + 2 ^ (-1074 : ℤ) / 2 := by
    have := (abs_le.1 (abs_near_sub_le w)).2
    rw [hexp] at this
    linarith
  have hpart : n * 2 ^ (-1074 : ℤ) ≤ w := by
    have : (n : ℚ) * (n * 2 ^ (-1074 : ℤ)) ≤ n * w := by
      rw [hnw, ← mul_assoc, ← pow_two]
      exact hbig
    exact le_of_mul_le_mul_left this (by linarith)
  rw [← near_eq_self hgrid]
  refine near_mono ?_
  have hh := two_zpow_pos (-1074)
  generalize (2 : ℚ) ^ (-1074 : ℤ) = h at hnear hpart hh
  calc (n - 1 / 2) * near w ≤ (n - 1 / 2) * (w + h / 2) :=
        mul_le_mul_of_nonneg_left hnear (by linarith)
    _ = n * w + n * h / 2 - w / 2 - h / 4 := by ring
    _ ≤ n * w := by linarith
    _ = D := hnw

/-- **The middle of the last part** is not beyond the width, unless the width is so small that the
parts are fewer than `n` least doubles wide. -/
theorem near_mul_near_le {a b : ℚ} (hn : 1 ≤ n) (hn' : n ≤ 20000000) (ha : OnGrid a)
    (hb : OnGrid b) (hab : a < b) (hbig : (n : ℚ) ^ 2 * 2 ^ (-1074 : ℤ) ≤ near (b - a)) :
    near ((n - 1 / 2) * near (near (b - a) / n)) ≤ b - a := by
  have hn0 : (n : ℚ) ≠ 0 := Nat.cast_ne_zero.2 (by omega)
  have hD : 0 ≤ b - a := by linarith
  have hw : 0 ≤ near (b - a) / n := div_nonneg (near_nonneg hD) (Nat.cast_nonneg n)
  have hnw : n * (near (b - a) / n) = near (b - a) := mul_div_cancel₀ _ hn0
  by_cases hnormal : 2 ^ (-1022 : ℤ) ≤ near (b - a)
  · exact near_mul_near_le_of_normal hn hn' hD hw hnw hnormal
  have hsub : b - a < 2 ^ (-1022 : ℤ) := by
    by_contra h
    have := near_mono (not_lt.1 h)
    rw [near_eq_self (onGrid_two_zpow (by norm_num))] at this
    exact hnormal this
  have hgrid : OnGrid (b - a) := by
    refine hb.sub ha ?_
    rw [abs_of_nonneg hD]
    exact hsub.le.trans (two_zpow_le (by norm_num))
  rw [near_eq_self hgrid] at hbig hw hnw ⊢
  exact near_mul_near_le_of_subnormal hn hgrid hw hnw hsub hbig

end Quadrature

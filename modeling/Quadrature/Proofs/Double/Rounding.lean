import Mathlib.Algebra.Order.Floor.Ring
import Mathlib.Data.Int.Log
import Mathlib.Data.Rat.Floor
import Mathlib.Tactic.Linarith
import Mathlib.Tactic.Positivity
import Mathlib.Tactic.Ring

/-!
# Rounding to doubles

Every rational number has a grid of doubles around it, the multiples of a power of two
(`gridExp`): `53` binary digits, but never finer than `2 ^ -1074`. It is rounded to the nearest
point of its grid, a tie to the even one (`near`). There is no largest double here; overflow is
looked at afterwards.

* `halfEven_eq_of_abs_lt`, `halfEven_eq_of_even`: a point is where its neighbourhood rounds to.
* `near_mono`: **rounding is monotone**, across the grids.
* `near_eq_self`: a double is not moved.
* `abs_near_sub_le`: the error is at most half a step of the grid.
-/

namespace Quadrature.Double

/-! ### Integers -/

/-- The nearest integer, a tie going to the even one. -/
def halfEven (q : ℚ) : ℤ :=
  if 2 * Int.fract q < 1 then ⌊q⌋
  else if 1 < 2 * Int.fract q then ⌊q⌋ + 1
  else ⌊q⌋ + ⌊q⌋ % 2

theorem floor_le_halfEven (q : ℚ) : ⌊q⌋ ≤ halfEven q := by
  unfold halfEven
  split_ifs <;> omega

theorem halfEven_le_floor_add_one (q : ℚ) : halfEven q ≤ ⌊q⌋ + 1 := by
  unfold halfEven
  split_ifs <;> omega

@[simp] theorem halfEven_intCast (n : ℤ) : halfEven n = n := by
  simp [halfEven]

@[simp] theorem halfEven_zero : halfEven 0 = 0 := by
  exact_mod_cast halfEven_intCast 0

theorem halfEven_mono {q r : ℚ} (h : q ≤ r) : halfEven q ≤ halfEven r := by
  rcases (Int.floor_mono h).lt_or_eq with hlt | heq
  · calc halfEven q ≤ ⌊q⌋ + 1 := halfEven_le_floor_add_one q
      _ ≤ ⌊r⌋ := hlt
      _ ≤ halfEven r := floor_le_halfEven r
  · -- on one step the fractions decide
    have hf : Int.fract q ≤ Int.fract r := by
      unfold Int.fract; rw [heq]; linarith
    unfold halfEven
    rw [heq]
    split_ifs <;> first | omega | (exfalso; linarith)

theorem abs_halfEven_sub_le (q : ℚ) : |(halfEven q : ℚ) - q| ≤ 1 / 2 := by
  have hq := Int.floor_add_fract q
  have h0 := Int.fract_nonneg q
  have h1 := Int.fract_lt_one q
  unfold halfEven
  rw [abs_le]
  split_ifs with hlt hgt
  · constructor <;> linarith
  · push_cast; constructor <;> linarith
  · rcases Int.emod_two_eq_zero_or_one ⌊q⌋ with hm | hm
    · rw [hm]; push_cast; constructor <;> linarith
    · rw [hm]; push_cast; constructor <;> linarith

/-- An integer is where everything strictly nearer than a half rounds to. -/
theorem halfEven_eq_of_abs_lt {q : ℚ} {n : ℤ} (h : |q - n| < 1 / 2) : halfEven q = n := by
  have he := abs_halfEven_sub_le q
  rw [abs_lt] at h
  rw [abs_le] at he
  have h1 : (halfEven q : ℚ) < n + 1 := by linarith
  have h2 : (n : ℚ) < halfEven q + 1 := by linarith
  have h1' : halfEven q < n + 1 := by exact_mod_cast h1
  have h2' : n < halfEven q + 1 := by exact_mod_cast h2
  omega

/-- An even integer takes the two ties beside it too. -/
theorem halfEven_eq_of_even {q : ℚ} {n : ℤ} (hn : n % 2 = 0) (h : |q - n| ≤ 1 / 2) :
    halfEven q = n := by
  rcases h.lt_or_eq with hlt | heq
  · exact halfEven_eq_of_abs_lt hlt
  have h0 := Int.fract_nonneg q
  have h1 := Int.fract_lt_one q
  -- at a tie the even number is the floor or the one above it
  rcases (abs_eq (by norm_num : (0 : ℚ) ≤ 1 / 2)).1 heq with hq | hq
  · have hf : ⌊q⌋ = n := Int.floor_eq_iff.2 ⟨by linarith, by linarith⟩
    have hr : 2 * Int.fract q = 1 := by unfold Int.fract; rw [hf]; linarith
    unfold halfEven
    rw [if_neg (by linarith), if_neg (by linarith), hf, hn, add_zero]
  · have hf : ⌊q⌋ = n - 1 := Int.floor_eq_iff.2 ⟨by push_cast; linarith, by push_cast; linarith⟩
    have hr : 2 * Int.fract q = 1 := by unfold Int.fract; rw [hf]; push_cast; linarith
    unfold halfEven
    rw [if_neg (by linarith), if_neg (by linarith), hf]
    omega

@[simp] theorem halfEven_neg (q : ℚ) : halfEven (-q) = -halfEven q := by
  have he := abs_halfEven_sub_le q
  rcases he.lt_or_eq with hlt | heq
  · apply halfEven_eq_of_abs_lt
    rw [← abs_neg]
    push_cast
    rwa [show -(-q - -(halfEven q : ℚ)) = -((halfEven q : ℚ) - q) by ring, abs_neg]
  · -- at a tie the result is even
    have heven : halfEven q % 2 = 0 := by
      have hq := Int.floor_add_fract q
      have h0 := Int.fract_nonneg q
      have h1 := Int.fract_lt_one q
      unfold halfEven at heq ⊢
      split_ifs at heq ⊢ with hlt hgt
      · rw [abs_of_nonpos (by linarith)] at heq; linarith
      · push_cast at heq
        rw [abs_of_nonneg (by linarith)] at heq; linarith
      · omega
    apply halfEven_eq_of_even (by omega)
    rw [← heq, ← abs_neg]
    push_cast
    rw [show -(-q - -(halfEven q : ℚ)) = -((halfEven q : ℚ) - q) by ring, abs_neg]

theorem halfEven_nonneg {q : ℚ} (h : 0 ≤ q) : 0 ≤ halfEven q := by
  have := halfEven_mono h
  rwa [halfEven_zero] at this

/-! ### The grid of a number -/

/-- The exponent of the grid that a number is rounded on. -/
def gridExp (q : ℚ) : ℤ := max (Int.log 2 |q| - 52) (-1074)

/-- A number rounded to the nearest double, a tie going to the even one. -/
def near (q : ℚ) : ℚ := halfEven (q / 2 ^ gridExp q) * 2 ^ gridExp q

@[simp] theorem gridExp_neg (q : ℚ) : gridExp (-q) = gridExp q := by
  unfold gridExp; rw [abs_neg]

theorem neg_1074_le_gridExp (q : ℚ) : -1074 ≤ gridExp q := le_max_right _ _

@[simp] theorem near_zero : near 0 = 0 := by
  unfold near; rw [zero_div, halfEven_zero, Int.cast_zero, zero_mul]

@[simp] theorem near_neg (q : ℚ) : near (-q) = -near q := by
  unfold near
  rw [gridExp_neg, neg_div, halfEven_neg, Int.cast_neg, neg_mul]

theorem two_zpow_pos (e : ℤ) : (0 : ℚ) < 2 ^ e := zpow_pos two_pos e

theorem two_zpow_le {a b : ℤ} (h : a ≤ b) : (2 : ℚ) ^ a ≤ 2 ^ b := zpow_le_zpow_right₀ one_le_two h

/-- A coarser point as a point of a finer grid. -/
theorem mul_two_zpow (n : ℤ) {a b : ℤ} (h : a ≤ b) :
    ∃ m : ℤ, (n : ℚ) * 2 ^ b = m * 2 ^ a := by
  refine ⟨n * 2 ^ (b - a).toNat, ?_⟩
  have hb : (2 : ℚ) ^ b = 2 ^ (b - a).toNat * 2 ^ a := by
    rw [← zpow_natCast, ← zpow_add₀ two_ne_zero]
    congr 1
    omega
  rw [hb]
  push_cast
  ring

theorem near_nonneg {q : ℚ} (h : 0 ≤ q) : 0 ≤ near q := by
  have hg := two_zpow_pos (gridExp q)
  have : (0 : ℚ) ≤ halfEven (q / 2 ^ gridExp q) := by
    exact_mod_cast halfEven_nonneg (div_nonneg h hg.le)
  exact mul_nonneg this hg.le

/-- The grid of a number below `2 ^ k`. -/
theorem gridExp_le {q : ℚ} {k : ℤ} (hq : q ≠ 0) (h : |q| < 2 ^ k) :
    gridExp q ≤ max (k - 53) (-1074) := by
  unfold gridExp
  have := (Int.lt_zpow_iff_log_lt one_lt_two (abs_pos.2 hq)).1 (by exact_mod_cast h)
  omega

/-- The grid of a number from `2 ^ k` on. -/
theorem le_gridExp {q : ℚ} {k : ℤ} (h : 2 ^ k ≤ |q|) : k - 52 ≤ gridExp q := by
  unfold gridExp
  have hq : 0 < |q| := lt_of_lt_of_le (two_zpow_pos k) h
  have := (Int.zpow_le_iff_le_log one_lt_two hq).1 (by exact_mod_cast h)
  omega

theorem gridExp_eq {q : ℚ} {k : ℤ} (h : 2 ^ k ≤ |q|) (h' : |q| < 2 ^ (k + 1)) :
    gridExp q = max (k - 52) (-1074) := by
  have hq : q ≠ 0 := abs_pos.1 (lt_of_lt_of_le (two_zpow_pos k) h)
  have hle := gridExp_le hq h'
  have hge := le_gridExp h
  have := neg_1074_le_gridExp q
  omega

/-- The smallest numbers share the finest grid. -/
theorem gridExp_of_lt {q : ℚ} (hq : q ≠ 0) (h : |q| < 2 ^ (-1021 : ℤ)) : gridExp q = -1074 := by
  have := gridExp_le hq h
  have := neg_1074_le_gridExp q
  omega

theorem abs_lt_mul_gridExp {q : ℚ} : |q| < 2 ^ 53 * 2 ^ gridExp q := by
  rw [show (2 : ℚ) ^ 53 = 2 ^ (53 : ℤ) by norm_num, ← zpow_add₀ two_ne_zero]
  have hlog := Int.lt_zpow_succ_log_self one_lt_two |q|
  refine lt_of_lt_of_le (by exact_mod_cast hlog) (two_zpow_le ?_)
  unfold gridExp
  omega

theorem mul_gridExp_le_abs {q : ℚ} (hq : q ≠ 0) (h : gridExp q ≠ -1074) :
    2 ^ 52 * 2 ^ gridExp q ≤ |q| := by
  rw [show (2 : ℚ) ^ 52 = 2 ^ (52 : ℤ) by norm_num, ← zpow_add₀ two_ne_zero]
  have hlog := Int.zpow_log_le_self one_lt_two (abs_pos.2 hq)
  refine le_trans (two_zpow_le ?_) (by exact_mod_cast hlog)
  unfold gridExp at h ⊢
  omega

theorem near_of_lt {q : ℚ} (h : |q| < 2 ^ (-1021 : ℤ)) :
    near q = halfEven (q / 2 ^ (-1074 : ℤ)) * 2 ^ (-1074 : ℤ) := by
  by_cases hq : q = 0
  · rw [hq, near_zero, zero_div, halfEven_zero, Int.cast_zero, zero_mul]
  · rw [near, gridExp_of_lt hq h]

theorem near_le_of_grid {q : ℚ} {n e : ℤ} (he : gridExp q ≤ e) (h : q ≤ n * 2 ^ e) :
    near q ≤ n * 2 ^ e := by
  obtain ⟨m, hm⟩ := mul_two_zpow n he
  have hg := two_zpow_pos (gridExp q)
  rw [hm] at h ⊢
  have hq : q / 2 ^ gridExp q ≤ m := (div_le_iff₀ hg).2 h
  have := halfEven_mono hq
  rw [halfEven_intCast] at this
  exact mul_le_mul_of_nonneg_right (by exact_mod_cast this) hg.le

theorem le_near_of_grid {q : ℚ} {n e : ℤ} (he : gridExp q ≤ e) (h : n * 2 ^ e ≤ q) :
    n * 2 ^ e ≤ near q := by
  have hn : -q ≤ ((-n : ℤ) : ℚ) * 2 ^ e := by push_cast; linarith
  have := near_le_of_grid (by rwa [gridExp_neg]) hn
  rw [near_neg] at this
  push_cast at this
  linarith

theorem near_mono_of_nonneg {q r : ℚ} (hq : 0 ≤ q) (h : q ≤ r) : near q ≤ near r := by
  rcases hq.lt_or_eq with hpos | hzero
  swap
  · rw [← hzero, near_zero]
    exact near_nonneg (hzero ▸ h)
  have hr : 0 < r := lt_of_lt_of_le hpos h
  have hlog : Int.log 2 q ≤ Int.log 2 r := Int.log_mono_right hpos h
  rcases lt_trichotomy (gridExp q) (gridExp r) with hlt | heq | hgt
  · -- a power of two lies between the two numbers, and on both grids
    have hgr : gridExp r = Int.log 2 r - 52 := by
      have := neg_1074_le_gridExp q
      unfold gridExp at hlt this ⊢
      rw [abs_of_pos hr] at hlt ⊢
      omega
    have hql : q < 2 ^ Int.log 2 r := by
      have := Int.lt_zpow_succ_log_self one_lt_two q
      refine lt_of_lt_of_le (by exact_mod_cast this) (two_zpow_le ?_)
      unfold gridExp at hlt
      rw [abs_of_pos hr, abs_of_pos hpos] at hlt
      omega
    have hrl : (2 : ℚ) ^ Int.log 2 r ≤ r := by
      exact_mod_cast Int.zpow_log_le_self one_lt_two hr
    have h1 : near q ≤ (1 : ℤ) * 2 ^ Int.log 2 r :=
      near_le_of_grid (by omega) (by push_cast; linarith)
    have h2 : (1 : ℤ) * 2 ^ Int.log 2 r ≤ near r :=
      le_near_of_grid (by omega) (by push_cast; linarith)
    exact h1.trans h2
  · -- on one grid it is the rounding of integers that is monotone
    unfold near
    rw [heq]
    have hg := two_zpow_pos (gridExp r)
    refine mul_le_mul_of_nonneg_right ?_ hg.le
    exact_mod_cast halfEven_mono (div_le_div_of_nonneg_right h hg.le)
  · unfold gridExp at hgt
    rw [abs_of_pos hr, abs_of_pos hpos] at hgt
    omega

/-- **Rounding is monotone.** -/
theorem near_mono {q r : ℚ} (h : q ≤ r) : near q ≤ near r := by
  rcases le_total 0 q with hq | hq
  · exact near_mono_of_nonneg hq h
  rcases le_total 0 r with hr | hr
  · have hnq : near q ≤ 0 := by
      have := near_nonneg (neg_nonneg.2 hq)
      rw [near_neg] at this
      linarith
    exact hnq.trans (near_nonneg hr)
  · have := near_mono_of_nonneg (neg_nonneg.2 hr) (neg_le_neg h)
    rw [near_neg, near_neg] at this
    linarith

/-! ### The doubles -/

/-- The numbers with at most `53` binary digits, none of them finer than `2 ^ -1074`. -/
def OnGrid (q : ℚ) : Prop := ∃ n e : ℤ, |n| ≤ 2 ^ 53 ∧ -1074 ≤ e ∧ q = n * 2 ^ e

theorem OnGrid.neg {q : ℚ} (h : OnGrid q) : OnGrid (-q) := by
  obtain ⟨n, e, hn, he, rfl⟩ := h
  exact ⟨-n, e, by rwa [abs_neg], he, by push_cast; ring⟩

theorem onGrid_intCast {n : ℤ} (h : |n| ≤ 2 ^ 53) : OnGrid n :=
  ⟨n, 0, h, by norm_num, by rw [zpow_zero, mul_one]⟩

theorem onGrid_two_zpow {e : ℤ} (h : -1074 ≤ e) : OnGrid (2 ^ e) :=
  ⟨1, e, by norm_num, h, by rw [Int.cast_one, one_mul]⟩

/-- Differences near the finest grid are exact. -/
theorem OnGrid.sub {q r : ℚ} (hq : OnGrid q) (hr : OnGrid r) (h : |q - r| ≤ 2 ^ (-1021 : ℤ)) :
    OnGrid (q - r) := by
  obtain ⟨n, e, -, he, hn⟩ := hq
  obtain ⟨k, e', -, he', hk⟩ := hr
  obtain ⟨n', hn'⟩ := mul_two_zpow n he
  obtain ⟨k', hk'⟩ := mul_two_zpow k he'
  have hqr : q - r = ((n' - k' : ℤ) : ℚ) * 2 ^ (-1074 : ℤ) := by
    rw [hn, hk, hn', hk', ← sub_mul, Int.cast_sub]
  refine ⟨n' - k', -1074, ?_, le_rfl, hqr⟩
  have hg := two_zpow_pos (-1074)
  have hpow : (2 : ℚ) ^ (-1021 : ℤ) = 2 ^ (53 : ℤ) * 2 ^ (-1074 : ℤ) := by
    rw [← zpow_add₀ two_ne_zero]; rfl
  rw [hqr, abs_mul, abs_of_pos hg, hpow] at h
  have := le_of_mul_le_mul_right h hg
  exact_mod_cast this

/-- **A double is not moved.** -/
theorem near_eq_self {q : ℚ} (h : OnGrid q) : near q = q := by
  obtain ⟨n, e, hn, he, hq⟩ := h
  by_cases hzero : q = 0
  · rw [hzero, near_zero]
  -- a point of a grid that is not finer than its own is rounded to itself
  suffices hg : ∃ m a : ℤ, gridExp q ≤ a ∧ q = m * 2 ^ a by
    obtain ⟨m, a, hg, hm⟩ := hg
    exact le_antisymm ((near_le_of_grid hg hm.le).trans hm.ge)
      (hm.le.trans (le_near_of_grid hg hm.ge))
  have habs : |q| = |(n : ℚ)| * 2 ^ e := by rw [hq, abs_mul, abs_of_pos (two_zpow_pos e)]
  rcases hn.lt_or_eq with hlt | heq
  · refine ⟨n, e, ?_, hq⟩
    have hq53 : |q| < 2 ^ (e + 53) := by
      rw [habs, zpow_add₀ two_ne_zero, mul_comm]
      refine mul_lt_mul_of_pos_left ?_ (two_zpow_pos e)
      exact_mod_cast hlt
    have := gridExp_le hzero hq53
    omega
  · -- one digit too many, but the last one is zero
    refine ⟨n.sign, e + 53, ?_, ?_⟩
    · have hq54 : |q| < 2 ^ (e + 54) := by
        rw [habs, zpow_add₀ two_ne_zero, mul_comm]
        refine mul_lt_mul_of_pos_left ?_ (two_zpow_pos e)
        have : |(n : ℚ)| = 2 ^ 53 := by exact_mod_cast heq
        rw [this]; norm_num
      have := gridExp_le hzero hq54
      omega
    · have hs : n = n.sign * 2 ^ 53 := by rw [← heq]; exact (Int.sign_mul_abs n).symm
      have hs' : (n : ℚ) = n.sign * 2 ^ 53 := by exact_mod_cast hs
      calc q = (n.sign * 2 ^ 53 : ℚ) * 2 ^ e := by rw [hq, ← hs']
        _ = n.sign * 2 ^ (e + 53) := by rw [zpow_add₀ two_ne_zero]; norm_num; ring

/-- Rounding gives a double. -/
theorem onGrid_near (q : ℚ) : OnGrid (near q) := by
  refine ⟨halfEven (q / 2 ^ gridExp q), gridExp q, ?_, neg_1074_le_gridExp q, rfl⟩
  have hg := two_zpow_pos (gridExp q)
  have hlt := abs_lt_mul_gridExp (q := q)
  rw [abs_lt] at hlt
  rw [abs_le]
  constructor
  · have hle : ((-2 ^ 53 : ℤ) : ℚ) ≤ q / 2 ^ gridExp q := by
      rw [le_div_iff₀ hg]; push_cast; linarith
    have := halfEven_mono hle
    rwa [halfEven_intCast] at this
  · have hle : q / 2 ^ gridExp q ≤ ((2 ^ 53 : ℤ) : ℚ) := by
      rw [div_le_iff₀ hg]; push_cast; linarith
    have := halfEven_mono hle
    rwa [halfEven_intCast] at this

/-! ### The error -/

/-- **Half a step of the grid** is the largest error. -/
theorem abs_near_sub_le (q : ℚ) : |near q - q| ≤ 2 ^ gridExp q / 2 := by
  have hg := two_zpow_pos (gridExp q)
  have hh := abs_halfEven_sub_le (q / 2 ^ gridExp q)
  have hq : near q - q = (halfEven (q / 2 ^ gridExp q) - q / 2 ^ gridExp q) * 2 ^ gridExp q := by
    unfold near
    rw [sub_mul, div_mul_cancel₀ q hg.ne']
  rw [hq, abs_mul, abs_of_pos hg]
  linarith [mul_le_mul_of_nonneg_right hh hg.le]

/-- The error relative to the number, with what is lost below the normal doubles. -/
theorem abs_near_sub_le_mul (q : ℚ) : |near q - q| ≤ |q| * 2 ^ (-53 : ℤ) + 2 ^ (-1075 : ℤ) := by
  by_cases hq : q = 0
  · rw [hq, near_zero]; norm_num
  refine (abs_near_sub_le q).trans ?_
  have habs := abs_pos.2 hq
  have hhalf : ∀ e : ℤ, (2 : ℚ) ^ e / 2 = 2 ^ (e - 1) := by
    intro e
    rw [zpow_sub₀ two_ne_zero, zpow_one]
  rw [hhalf]
  have h53 := two_zpow_pos (-53)
  have h1075 := two_zpow_pos (-1075)
  -- half a step is relative to the number, or that of the finest grid
  rcases max_choice (Int.log 2 |q| - 52) (-1074) with h | h
  · have hlog : (2 : ℚ) ^ Int.log 2 |q| ≤ |q| := by
      exact_mod_cast Int.zpow_log_le_self one_lt_two habs
    have : (2 : ℚ) ^ (gridExp q - 1) = 2 ^ Int.log 2 |q| * 2 ^ (-53 : ℤ) := by
      rw [← zpow_add₀ two_ne_zero, gridExp, h]; congr 1; ring
    rw [this]
    linarith [mul_le_mul_of_nonneg_right hlog h53.le]
  · have : (2 : ℚ) ^ (gridExp q - 1) = 2 ^ (-1075 : ℤ) := by rw [gridExp, h]; norm_num
    rw [this]
    linarith [mul_nonneg habs.le h53.le]

end Quadrature.Double

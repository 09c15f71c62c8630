import Quadrature.Decimal.Shortest
import Quadrature.Proofs.Double.Unpacked

/-!
# The shortest decimal reads back

The search for the fewest digits only accepts a decimal that rounds to the double it started from
(`near_of_contains`), and if no grid has one, the digits that are left are so fine that the largest
decimal not above the double rounds to it too (`near_search`). So rounding undoes
`Magnitude.shortest` (`near_shortest`).
-/

namespace Quadrature.Decimal

open Double

variable {m : ℕ} {e : ℤ}

/-! ### The neighbourhood of a double -/

/-- How far a neighbourhood reaches down, in quarters of a step. -/
def below (m : ℕ) : ℕ := if m = Binary64.hiddenBit then 1 else 2

/-- Just below the smallest significand of a grid, on the next finer grid. -/
theorem near_of_finer (he : -1074 < e) {q : ℚ} (hlow : (2 ^ (52 : ℤ) - 1 / 4) * 2 ^ e ≤ q)
    (hhigh : q < 2 ^ (52 : ℤ) * 2 ^ e) : near q = 2 ^ (52 : ℤ) * 2 ^ e := by
  have hg := two_zpow_pos e
  have hg' := two_zpow_pos (e - 1)
  have hfine : (2 : ℚ) ^ e = 2 * 2 ^ (e - 1) := by
    rw [← zpow_one_add₀ two_ne_zero]
    congr 1
    ring
  have hq : 0 < q := lt_of_lt_of_le (mul_pos (by norm_num) hg) hlow
  have hexp : gridExp q = e - 1 := by
    have hge : (2 : ℚ) ^ (e + 51) ≤ |q| := by
      rw [abs_of_pos hq, zpow_add₀ two_ne_zero, mul_comm]
      exact le_trans (mul_le_mul_of_nonneg_right (by norm_num) hg.le) hlow
    have hlt : |q| < 2 ^ (e + 52) := by
      rwa [abs_of_pos hq, zpow_add₀ two_ne_zero, mul_comm]
    have := le_gridExp hge
    have := gridExp_le hq.ne' hlt
    omega
  have habs : |q / 2 ^ (e - 1) - ((2 ^ 53 : ℤ) : ℚ)| ≤ 1 / 2 := by
    rw [hfine] at hlow hhigh
    norm_num at hlow hhigh ⊢
    have h1 : (9007199254740992 : ℚ) - 1 / 2 ≤ q / 2 ^ (e - 1) := by
      rw [le_div_iff₀ hg']; linarith
    have h2 : q / 2 ^ (e - 1) ≤ 9007199254740992 := by
      rw [div_le_iff₀ hg']; linarith
    rw [abs_le]
    constructor <;> linarith
  rw [near, hexp, halfEven_eq_of_even (by norm_num) habs, hfine]
  norm_num
  ring

/-- Less than half a step away, or just half from an even number, is rounded to it. -/
theorem halfEven_of_neighbourhood {b r : ℚ} (hb : b ≤ 2) (hlow : (m : ℚ) - b / 4 ≤ r)
    (hhigh : r ≤ m + 1 / 2) (hopen : m % 2 = 1 → (m : ℚ) - b / 4 < r ∧ r < m + 1 / 2) :
    halfEven r = m := by
  rcases Nat.mod_two_eq_zero_or_one m with hpar | hpar
  · refine halfEven_eq_of_even (by omega) ?_
    rw [Int.cast_natCast, abs_le]
    constructor <;> linarith
  · obtain ⟨hlt, hgt⟩ := hopen hpar
    refine halfEven_eq_of_abs_lt ?_
    rw [Int.cast_natCast, abs_lt]
    constructor <;> linarith

/-- **The neighbourhood of a double rounds to it.** The steps below the smallest significand of a
grid are those of the next finer grid, half as wide. -/
theorem near_of_neighbourhood (hm : 0 < m) (hc : Canonical m e) {q : ℚ}
    (hlow : ((m : ℚ) - below m / 4) * 2 ^ e ≤ q) (hhigh : q ≤ ((m : ℚ) + 1 / 2) * 2 ^ e)
    (hopen : m % 2 = 1 → ((m : ℚ) - below m / 4) * 2 ^ e < q ∧ q < ((m : ℚ) + 1 / 2) * 2 ^ e) :
    near q = m * 2 ^ e := by
  have hg := two_zpow_pos e
  have hm1 : (1 : ℚ) ≤ m := by exact_mod_cast hm
  have hm53 : (m : ℚ) + 1 ≤ 2 ^ (53 : ℤ) := by exact_mod_cast hc.lt
  have hb : (below m : ℚ) ≤ 2 := by
    unfold below
    split <;> norm_num
  have hq : 0 < q := lt_of_lt_of_le (mul_pos (by linarith) hg) hlow
  have hle : gridExp q ≤ e := by
    have hlt : |q| < 2 ^ (e + 53) := by
      rw [abs_of_pos hq, zpow_add₀ two_ne_zero, mul_comm]
      exact hhigh.trans_lt (mul_lt_mul_of_pos_right (by linarith) hg)
    have := gridExp_le hq.ne' hlt
    have := hc.le
    omega
  rcases hle.lt_or_eq with hlt | heq
  · -- on a finer grid lies only what is just below the smallest significand
    have hsmall : q < 2 ^ (52 : ℤ) * 2 ^ e := by
      rw [← zpow_add₀ two_ne_zero, ← abs_of_pos hq]
      by_contra h
      have := le_gridExp (not_lt.1 h)
      omega
    have hmin := neg_1074_le_gridExp q
    have hfull : 2 ^ 52 ≤ m := hc.full.resolve_right (by omega)
    have hm52 : m = 2 ^ 52 := by
      by_contra hne
      have hbig : (2 : ℚ) ^ (52 : ℤ) + 1 ≤ m := by exact_mod_cast (by omega : 2 ^ 52 + 1 ≤ m)
      have : 2 ^ (52 : ℤ) * 2 ^ e ≤ ((m : ℚ) - below m / 4) * 2 ^ e :=
        mul_le_mul_of_nonneg_right (by linarith) hg.le
      linarith
    have hbelow : below m = 1 := by rw [hm52]; rfl
    have hmq : (m : ℚ) = 2 ^ (52 : ℤ) := by exact_mod_cast hm52
    rw [hbelow, hmq, Nat.cast_one] at hlow
    rw [hmq, near_of_finer (by omega) hlow hsmall]
  · -- on the grid of the double itself it is a matter of integers
    have hhalf : halfEven (q / 2 ^ e) = m := by
      refine halfEven_of_neighbourhood hb ((le_div_iff₀ hg).2 hlow) ((div_le_iff₀ hg).2 hhigh) ?_
      intro hodd
      obtain ⟨hlt, hgt⟩ := hopen hodd
      exact ⟨(lt_div_iff₀ hg).2 hlt, (div_lt_iff₀ hg).2 hgt⟩
    rw [near, heq, hhalf, Int.cast_natCast]

/-! ### The comparison over natural numbers -/

/-- The common scale of a comparison. -/
def Neighbourhood.common (n : Neighbourhood) (k : ℤ) : ℚ :=
  10 ^ (-k).toNat * 2 ^ (-n.exponent).toNat

namespace Neighbourhood

variable {n : Neighbourhood} {k : ℤ}

theorem common_pos : 0 < n.common k := mul_pos (pow_pos (by norm_num) _) (pow_pos two_pos _)

theorem pow_toNat {b : ℚ} (hb : b ≠ 0) (k : ℤ) : b ^ k.toNat = b ^ k * b ^ (-k).toNat := by
  rw [← zpow_natCast, ← zpow_natCast, ← zpow_add₀ hb]
  congr 1
  omega

theorem cast_ofGrid (d : ℕ) : (n.ofGrid k d : ℚ) = d * 10 ^ k * n.common k := by
  unfold ofGrid common
  rw [Nat.pow_eq, Nat.pow_eq]
  push_cast
  rw [pow_toNat (by norm_num) k]
  ring

theorem cast_ofQuarters (q : ℕ) : (n.ofQuarters k q : ℚ) = q * 2 ^ n.exponent * n.common k := by
  unfold ofQuarters common
  rw [Nat.pow_eq, Nat.pow_eq]
  push_cast
  rw [pow_toNat two_ne_zero n.exponent]
  ring

theorem ofQuarters_le_ofGrid {q d : ℕ} :
    n.ofQuarters k q ≤ n.ofGrid k d ↔ (q : ℚ) * 2 ^ n.exponent ≤ d * 10 ^ k := by
  rw [← Nat.cast_le (α := ℚ), cast_ofGrid, cast_ofQuarters, mul_le_mul_iff_left₀ common_pos]

theorem ofGrid_le_ofQuarters {q d : ℕ} :
    n.ofGrid k d ≤ n.ofQuarters k q ↔ (d : ℚ) * 10 ^ k ≤ q * 2 ^ n.exponent := by
  rw [← Nat.cast_le (α := ℚ), cast_ofGrid, cast_ofQuarters, mul_le_mul_iff_left₀ common_pos]

theorem ofQuarters_lt_ofGrid {q d : ℕ} :
    n.ofQuarters k q < n.ofGrid k d ↔ (q : ℚ) * 2 ^ n.exponent < d * 10 ^ k := by
  rw [← not_le, ofGrid_le_ofQuarters, not_le]

theorem ofGrid_lt_ofQuarters {q d : ℕ} :
    n.ofGrid k d < n.ofQuarters k q ↔ (d : ℚ) * 10 ^ k < q * 2 ^ n.exponent := by
  rw [← not_le, ofQuarters_le_ofGrid, not_le]

/-- What a search accepts, in rational numbers. -/
theorem contains_iff {d : ℕ} : n.contains k d = true ↔
    ((n.centre - n.below : ℕ) : ℚ) * 2 ^ n.exponent ≤ d * 10 ^ k ∧
      (d : ℚ) * 10 ^ k ≤ (n.centre + 2 : ℕ) * 2 ^ n.exponent ∧
      (n.closed = false → ((n.centre - n.below : ℕ) : ℚ) * 2 ^ n.exponent < d * 10 ^ k ∧
        (d : ℚ) * 10 ^ k < (n.centre + 2 : ℕ) * 2 ^ n.exponent) := by
  unfold contains
  cases hc : n.closed
  · simp only [Bool.false_eq_true, if_false, Bool.and_eq_true, decide_eq_true_eq, forall_const]
    rw [ofQuarters_lt_ofGrid, ofGrid_lt_ofQuarters]
    constructor
    · intro h
      exact ⟨h.1.le, h.2.le, h⟩
    · intro h
      exact h.2.2
  · simp only [if_true, Bool.and_eq_true, decide_eq_true_eq, Bool.true_eq_false, false_implies,
      and_true]
    rw [ofQuarters_le_ofGrid, ofGrid_le_ofQuarters]

theorem contains_of_onGrid? {d : ℕ} (h : n.onGrid? k = some d) : n.contains k d = true := by
  unfold onGrid? at h
  dsimp only at h
  split at h
  · cases h
  · rename_i h1 _
    cases h
    exact h1
  · rename_i _ h2
    cases h
    exact h2
  · rename_i h1 h2
    split at h
    · cases h
      exact h1
    · cases h
      exact h2

/-- The largest decimal of a grid that is not above the centre. -/
theorem floor_bounds : (n.floor k : ℚ) * 10 ^ k ≤ n.centre * 2 ^ n.exponent ∧
    (n.centre : ℚ) * 2 ^ n.exponent < (n.floor k + 1 : ℕ) * 10 ^ k := by
  have hgrid : ∀ d, n.ofGrid k d = d * n.ofGrid k 1 := by
    intro d
    unfold ofGrid
    ring
  have hpos : 0 < n.ofGrid k 1 := by
    unfold ofGrid
    rw [Nat.pow_eq, Nat.pow_eq]
    positivity
  constructor
  · rw [← ofGrid_le_ofQuarters, hgrid]
    exact Nat.div_mul_le_self _ _
  · rw [← ofQuarters_lt_ofGrid, hgrid]
    exact Nat.lt_mul_of_div_lt (Nat.lt_succ_self _) hpos

end Neighbourhood

/-! ### The search -/

/-- The value of a decimal. -/
def Scaled.value (d : Scaled) : ℚ := d.digits * 10 ^ d.scale

/-- The neighbourhood of a magnitude in rational numbers. -/
theorem neighbourhood_bounds (hm : 0 < m) :
    (((⟨m, e⟩ : Magnitude).neighbourhood.centre - (⟨m, e⟩ : Magnitude).neighbourhood.below : ℕ) : ℚ) *
        2 ^ (⟨m, e⟩ : Magnitude).neighbourhood.exponent = ((m : ℚ) - below m / 4) * 2 ^ e ∧
      (((⟨m, e⟩ : Magnitude).neighbourhood.centre + 2 : ℕ) : ℚ) *
        2 ^ (⟨m, e⟩ : Magnitude).neighbourhood.exponent = ((m : ℚ) + 1 / 2) * 2 ^ e ∧
      ((⟨m, e⟩ : Magnitude).neighbourhood.centre : ℚ) *
        2 ^ (⟨m, e⟩ : Magnitude).neighbourhood.exponent = m * 2 ^ e := by
  have hquarter : (2 : ℚ) ^ (e - 2) = 2 ^ e / 4 := by
    rw [zpow_sub₀ two_ne_zero]
    norm_num
  have hb : below m ≤ 4 * m := by
    unfold below
    split <;> omega
  refine ⟨?_, ?_, ?_⟩
  · change ((4 * m - below m : ℕ) : ℚ) * 2 ^ (e - 2) = _
    rw [Nat.cast_sub hb, hquarter]
    push_cast
    ring
  · change ((4 * m + 2 : ℕ) : ℚ) * 2 ^ (e - 2) = _
    rw [hquarter]
    push_cast
    ring
  · change ((4 * m : ℕ) : ℚ) * 2 ^ (e - 2) = _
    rw [hquarter]
    push_cast
    ring

/-- **What the search accepts reads back.** -/
theorem near_of_contains (hm : 0 < m) (hc : Canonical m e) {k : ℤ} {d : ℕ}
    (h : (⟨m, e⟩ : Magnitude).neighbourhood.contains k d = true) :
    near (d * 10 ^ k) = m * 2 ^ e := by
  obtain ⟨hlow, hhigh, hopen⟩ := Neighbourhood.contains_iff.1 h
  obtain ⟨hl, hh, -⟩ := neighbourhood_bounds (e := e) hm
  rw [hl] at hlow hopen
  rw [hh] at hhigh hopen
  refine near_of_neighbourhood hm hc hlow hhigh ?_
  intro hodd
  refine hopen ?_
  -- the neighbourhood of an odd significand is open
  change (m % 2 == 0) = false
  rw [hodd]
  rfl

/-- Once the grid is fine enough its largest decimal below reads back. -/
theorem near_of_floor (hm : 0 < m) (hc : Canonical m e) {k : ℤ} (hk : (10 : ℚ) ^ k ≤ 2 ^ e / 8) :
    near ((⟨m, e⟩ : Magnitude).neighbourhood.floor k * 10 ^ k) = m * 2 ^ e := by
  have hg := two_zpow_pos e
  obtain ⟨hle, hlt⟩ := (⟨m, e⟩ : Magnitude).neighbourhood.floor_bounds (k := k)
  obtain ⟨-, -, hcentre⟩ := neighbourhood_bounds (e := e) hm
  rw [hcentre] at hle hlt
  push_cast at hlt
  have hb : (1 : ℚ) ≤ below m := by
    unfold below
    split <;> norm_num
  -- an eighth of a step below the double is well inside of its neighbourhood
  have hbg : (2 : ℚ) ^ e / 4 ≤ below m / 4 * 2 ^ e := by
    linarith [mul_le_mul_of_nonneg_right hb hg.le]
  have hlow : ((m : ℚ) - below m / 4) * 2 ^ e <
      (⟨m, e⟩ : Magnitude).neighbourhood.floor k * 10 ^ k := by
    rw [sub_mul]
    linarith
  have hhigh : (⟨m, e⟩ : Magnitude).neighbourhood.floor k * 10 ^ k < ((m : ℚ) + 1 / 2) * 2 ^ e := by
    rw [add_mul]
    linarith
  exact near_of_neighbourhood hm hc hlow.le hhigh.le fun _ => ⟨hlow, hhigh⟩

theorem near_search (hm : 0 < m) (hc : Canonical m e) (grids : ℕ) {k : ℤ}
    (hk : (10 : ℚ) ^ (k - grids) ≤ 2 ^ e / 8) :
    near ((⟨m, e⟩ : Magnitude).neighbourhood.search grids k).value = m * 2 ^ e := by
  -- every grid before the last one answers with what it has checked
  induction grids generalizing k with
  | zero =>
    rw [Nat.cast_zero, sub_zero] at hk
    exact near_of_floor hm hc hk
  | succ grids ih =>
    unfold Neighbourhood.search
    split
    · rename_i d hd
      exact near_of_contains hm hc (Neighbourhood.contains_of_onGrid? hd)
    · refine ih ?_
      rwa [show k - 1 - (grids : ℤ) = k - ((grids + 1 : ℕ) : ℤ) by push_cast; ring]

/-! ### The grids that are searched -/

theorem Magnitude.cast_num (v : Magnitude) :
    (v.num : ℚ) = v.significand * 2 ^ v.exponent * v.den := by
  unfold num den
  rw [Nat.pow_eq, Nat.pow_eq]
  push_cast
  rw [Neighbourhood.pow_toNat two_ne_zero]
  ring

theorem Magnitude.den_pos (v : Magnitude) : 0 < v.den := Nat.pow_pos two_pos

theorem lt_pow_digitCount (n : ℕ) : n < 10 ^ digitCount n :=
  (Nat.length_toDigits_le_iff (by norm_num) Nat.length_toDigits_pos).1 le_rfl

theorem pow_digitCount_le {n : ℕ} (h : 0 < n) : 10 ^ (digitCount n - 1) ≤ n := by
  by_contra hlt
  unfold digitCount at hlt
  -- with one digit less the number would be below that power of ten
  by_cases hone : (Nat.toDigits 10 n).length - 1 = 0
  · rw [hone, pow_zero] at hlt
    omega
  · have := (Nat.length_toDigits_le_iff (by norm_num) (Nat.pos_of_ne_zero hone)).2 (not_le.1 hlt)
    omega

/-- **The first grid** is not coarser than the value. -/
theorem leadingExponent_le {v : Magnitude} (h : 0 < v.significand) :
    (10 : ℚ) ^ v.leadingExponent ≤ v.significand * 2 ^ v.exponent := by
  have hden : (0 : ℚ) < v.den := by exact_mod_cast v.den_pos
  have hnum := v.cast_num
  unfold Magnitude.leadingExponent
  split
  · rename_i hle
    have hpos : 0 < v.num / v.den := Nat.div_pos hle v.den_pos
    have hdigits : 0 < digitCount (v.num / v.den) := Nat.length_toDigits_pos
    have hpow := pow_digitCount_le hpos
    rw [show (digitCount (v.num / v.den) : ℤ) - 1 = (digitCount (v.num / v.den) - 1 : ℕ) by omega,
      zpow_natCast]
    have hdiv : 10 ^ (digitCount (v.num / v.den) - 1) * v.den ≤ v.num :=
      (Nat.mul_le_mul_right _ hpow).trans (Nat.div_mul_le_self _ _)
    have hdiv' : (10 : ℚ) ^ (digitCount (v.num / v.den) - 1) * v.den ≤ v.num := by
      exact_mod_cast hdiv
    rw [hnum] at hdiv'
    exact le_of_mul_le_mul_right hdiv' hden
  · have hpos : 0 < v.num := Nat.mul_pos h (Nat.pow_pos two_pos)
    have hlt := lt_pow_digitCount ((v.den - 1) / v.num)
    rw [Nat.div_lt_iff_lt_mul hpos] at hlt
    have hle : v.den ≤ v.num * 10 ^ digitCount ((v.den - 1) / v.num) := by
      rw [Nat.mul_comm]
      omega
    have hle' : (v.den : ℚ) ≤ v.num * 10 ^ digitCount ((v.den - 1) / v.num) := by exact_mod_cast hle
    have hpow : (0 : ℚ) < 10 ^ digitCount ((v.den - 1) / v.num) := by positivity
    rw [zpow_neg, zpow_natCast, inv_le_iff_one_le_mul₀ hpow]
    rw [hnum, mul_right_comm] at hle'
    exact le_of_mul_le_mul_right (by rwa [one_mul]) hden

/-- Zeros at the end carry no value. -/
theorem Scaled.value_stripZeros (d : Scaled) : d.stripZeros.value = d.value := by
  fun_induction Scaled.stripZeros d with
  | case1 d h ih =>
    rw [ih]
    unfold Scaled.value
    obtain ⟨q, hq⟩ : 10 ∣ d.digits := Nat.dvd_of_mod_eq_zero h.2
    rw [hq, Nat.mul_div_cancel_left _ (by norm_num), zpow_add_one₀ (by norm_num)]
    push_cast
    ring
  | case2 d h => rfl

/-- **The fewest digits read back**: rounding the shortest decimal of a double gives the double. -/
theorem near_shortest (hm : 0 < m) (hc : Canonical m e) :
    near (⟨m, e⟩ : Magnitude).shortest.value = m * 2 ^ e := by
  unfold Magnitude.shortest
  rw [Scaled.value_stripZeros]
  refine near_search hm hc 17 ?_
  -- seventeen grids below the first one, `10 ^ 17 > 2 ^ 56` leaves less than an eighth of a step
  have hlead := leadingExponent_le (v := ⟨m, e⟩) hm
  have hg := two_zpow_pos e
  have hm53 : (m : ℚ) ≤ 2 ^ 53 := by exact_mod_cast hc.lt.le
  rw [zpow_sub₀ (by norm_num), div_le_iff₀ (by positivity)]
  calc (10 : ℚ) ^ (⟨m, e⟩ : Magnitude).leadingExponent ≤ m * 2 ^ e := hlead
    _ ≤ 2 ^ 53 * 2 ^ e := mul_le_mul_of_nonneg_right hm53 hg.le
    _ ≤ 2 ^ e / 8 * 10 ^ ((17 : ℕ) : ℤ) := by
      rw [zpow_natCast]
      linarith

end Quadrature.Decimal

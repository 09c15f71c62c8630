import Quadrature.Proofs.Double.Value

/-!
# Decimals as doubles

`m · 10 ^ e` is rounded once (`value?_ofScientific`): where both factors are doubles, one operation
on them does it, and otherwise the model computes with the exact power of ten. Natural numbers are
the case without an exponent (`value?_nearest`).
-/

namespace Quadrature.Double

open Float.Model Float.Model.UnpackedFloat

variable {m : ℕ}

theorem near_of_abs_le {q : ℚ} (h : |q| ≤ 2 ^ (-1075 : ℤ)) : near q = 0 := by
  have hg := two_zpow_pos (-1074)
  have hhalf : (2 : ℚ) ^ (-1075 : ℤ) = 1 / 2 * 2 ^ (-1074 : ℤ) := by
    rw [show (1 / 2 : ℚ) = 2 ^ (-1 : ℤ) by norm_num, ← zpow_add₀ two_ne_zero]
    rfl
  have hq : |q / 2 ^ (-1074 : ℤ) - (0 : ℤ)| ≤ 1 / 2 := by
    rw [Int.cast_zero, sub_zero, abs_div, abs_of_pos hg, div_le_iff₀ hg, ← hhalf]
    exact h
  rw [near_of_lt (h.trans_lt (zpow_lt_zpow_right₀ one_lt_two (by norm_num))),
    halfEven_eq_of_even rfl hq, Int.cast_zero, zero_mul]

theorem rounded_of_limit_le {q : ℚ} (h : limit ≤ q) : rounded q = ⊤ := by
  have hgrid : OnGrid limit := limit_eq ▸ onGrid_two_zpow (by norm_num)
  have := near_mono h
  rw [near_eq_self hgrid] at this
  rw [rounded, inRange, if_pos this]

theorem two_zpow_le_ten_zpow {e : ℤ} (h : 0 ≤ e) : (2 : ℚ) ^ e ≤ 10 ^ e :=
  zpow_le_zpow_left₀ h (by norm_num) (by norm_num)

theorem ten_zpow_le_two_zpow {e : ℤ} (h : e ≤ 0) : (10 : ℚ) ^ e ≤ 2 ^ e := by
  obtain ⟨k, rfl⟩ : ∃ k, e = -k := ⟨-e, by ring⟩
  rw [zpow_neg, zpow_neg]
  exact inv_anti₀ (two_zpow_pos k) (two_zpow_le_ten_zpow (by omega))

/-- A large exponent alone is out of range. -/
theorem limit_le_of_exponent (hm : m ≠ 0) {e : ℤ} (he : 2048 < e) : limit ≤ m * 10 ^ e := by
  have hm1 : (1 : ℚ) ≤ m := by exact_mod_cast Nat.one_le_iff_ne_zero.2 hm
  calc limit = 2 ^ (1024 : ℤ) := limit_eq
    _ ≤ 2 ^ e := two_zpow_le (by omega)
    _ ≤ 10 ^ e := two_zpow_le_ten_zpow (by omega)
    _ ≤ m * 10 ^ e := le_mul_of_one_le_left (zpow_nonneg (by norm_num) e) hm1

/-- A small one, with as many digits as there are, is half of the least double at most. -/
theorem abs_le_of_exponent {e : ℤ} (he : e < -(2048 + (m.log2 : ℤ))) :
    |(m : ℚ) * 10 ^ e| ≤ 2 ^ (-1075 : ℤ) := by
  have hten : (0 : ℚ) ≤ 10 ^ e := zpow_nonneg (by norm_num) e
  have hlt : (m : ℚ) ≤ 2 ^ ((m.log2 : ℤ) + 1) := by
    rw [← Nat.cast_succ, zpow_natCast]
    exact_mod_cast Nat.lt_log2_self.le
  rw [abs_of_nonneg (mul_nonneg (Nat.cast_nonneg m) hten)]
  calc (m : ℚ) * 10 ^ e ≤ 2 ^ ((m.log2 : ℤ) + 1) * 2 ^ e :=
        mul_le_mul hlt (ten_zpow_le_two_zpow (by omega)) hten (two_zpow_pos _).le
    _ = 2 ^ ((m.log2 : ℤ) + 1 + e) := (zpow_add₀ two_ne_zero _ _).symm
    _ ≤ 2 ^ (-1075 : ℤ) := two_zpow_le (by omega)

/-- The product with a power of ten, for which the mantissa is given `53` more digits. -/
theorem mul_ten_pow_holds (hm : m ≠ 0) (k : ℕ) (hpos : 0 < m <<< 53) (hten : 0 < 10 ^ k) :
    Holds .positive (near (m * 10 ^ (k : ℤ)))
      (UnpackedFloat.mul .binary64 (.finite .positive (m <<< 53) (-53) hpos)
        (.finite .positive (10 ^ k) 0 hten)) := by
  have hm53 : 2 ^ 53 ≤ m <<< 53 := by
    rw [Nat.shiftLeft_eq]
    exact Nat.le_mul_of_pos_left _ (Nat.pos_of_ne_zero hm)
  have hlog : 52 ≤ (m <<< 53 * 10 ^ k).log2 := by
    refine (Nat.le_log2 (Nat.mul_pos hpos hten).ne').2 ?_
    exact (show 2 ^ 52 ≤ m <<< 53 by omega).trans (Nat.le_mul_of_pos_right _ hten)
  have hv : ((m <<< 53 : ℕ) : ℚ) * 2 ^ (-53 : ℤ) * ((10 ^ k : ℕ) * 2 ^ (0 : ℤ)) =
      m * 10 ^ (k : ℤ) := by
    have h53 : (2 : ℚ) ^ 53 * 2 ^ (-53 : ℤ) = 1 := by norm_num
    rw [Nat.shiftLeft_eq, zpow_natCast, Nat.cast_mul, Nat.cast_pow, Nat.cast_pow,
      Nat.cast_ofNat, Nat.cast_ofNat, zpow_zero, mul_one, mul_assoc (m : ℚ), h53, mul_one]
  have := mul_finite_holds (s := .positive) (t := .positive) (e := -53) (k := 0) hpos hten
    (.inl hlog)
  rwa [hv] at this

/-- The quotient by a power of ten. -/
theorem div_ten_pow_holds (hm : 0 < m) (k : ℕ) (hten : 0 < 10 ^ k) :
    Holds .positive (near (m * 10 ^ (-(k : ℤ))))
      (UnpackedFloat.div .binary64 (.finite .positive m 0 hm)
        (.finite .positive (10 ^ k) 0 hten)) := by
  have hv : (m : ℚ) * 2 ^ (0 : ℤ) / ((10 ^ k : ℕ) * 2 ^ (0 : ℤ)) = m * 10 ^ (-(k : ℤ)) := by
    rw [zpow_neg, zpow_natCast, zpow_zero, mul_one, mul_one, div_eq_mul_inv, Nat.cast_pow,
      Nat.cast_ofNat]
  have := div_finite_holds (s := .positive) (t := .positive) (e := 0) (k := 0) hm hten
  rwa [hv] at this

/-- The model rounds the exact number, out of reach of its tests for huge exponents. -/
theorem ofScientific_value? (m : ℕ) (e : ℤ) :
    value? (.ofModel (Float.Model.ofScientific m e)) = some (rounded (m * 10 ^ e)) := by
  change value? (.ofModel (.pack (UnpackedFloat.ofScientific .binary64 m e))) = _
  have hbits : (2 : ℤ) ^ Format.binary64.exponentBits = 2048 := rfl
  unfold UnpackedFloat.ofScientific
  rw [hbits]
  by_cases hm : m = 0
  · rw [dif_pos hm, hm, Nat.cast_zero, zero_mul, rounded, near_zero]
    exact value?_pack ⟨_, _, .zero _, signed_zero _⟩
  rw [dif_neg hm]
  -- the model does not form the power of ten where the result is clear
  by_cases hbig : e > 2048
  · rw [if_pos hbig, rounded_of_limit_le (limit_le_of_exponent hm hbig)]
    rfl
  rw [if_neg hbig]
  by_cases hsmall : e < -(2048 + (m.log2 : ℤ))
  · rw [if_pos hsmall, rounded, near_of_abs_le (abs_le_of_exponent hsmall)]
    exact value?_pack ⟨_, _, .zero _, signed_zero _⟩
  rw [if_neg hsmall]
  by_cases he : 0 ≤ e
  · obtain ⟨k, rfl⟩ := Int.eq_ofNat_of_zero_le he
    rw [if_pos he]
    exact value?_pack ⟨_, _, mul_ten_pow_holds hm k _ _, rfl⟩
  · have hk : e = -((-e).toNat : ℤ) := by omega
    have hdiv := div_ten_pow_holds (Nat.pos_of_ne_zero hm) (-e).toNat (Nat.pow_pos (by norm_num))
    rw [← hk] at hdiv
    rw [if_neg he]
    exact value?_pack ⟨_, _, hdiv, rfl⟩

/-! ### Where both factors are doubles -/

/-- The table of powers of ten is exact. -/
theorem powersOfTen_eq (e : Fin 23) (h : e.val < Float.exactlyRepresentablePowersOfTen.size) :
    Float.exactlyRepresentablePowersOfTen[e.val] = .ofModel (.ofNat (10 ^ e.val)) := by
  revert e
  decide +kernel

theorem value?_ofNat_model (n : ℕ) : value? (.ofModel (.ofNat n)) = some (rounded n) := by
  have := normalize_hasValue n 0
  rw [zpow_zero, mul_one, Int.cast_natCast] at this
  exact value?_pack this

theorem value?_powersOfTen {e : ℕ} (h : e ≤ 22)
    (h' : e < Float.exactlyRepresentablePowersOfTen.size) :
    value? Float.exactlyRepresentablePowersOfTen[e] = some (((10 : ℚ) ^ e : ℚ) : Number) := by
  -- `10 ^ e` is `5 ^ e` on the grid `2 ^ e`
  have hgrid : OnGrid (10 ^ e) := by
    refine ⟨5 ^ e, e, ?_, by omega, ?_⟩
    · rw [abs_of_pos (by positivity)]
      calc (5 : ℤ) ^ e ≤ 5 ^ 22 := pow_le_pow_right₀ (by norm_num) h
        _ ≤ 2 ^ 53 := by norm_num
    · rw [zpow_natCast, Int.cast_pow, Int.cast_ofNat, ← mul_pow]
      norm_num
  have hle : |(10 : ℚ) ^ e| ≤ 2 ^ (74 : ℤ) := by
    rw [abs_of_pos (by positivity)]
    calc (10 : ℚ) ^ e ≤ 10 ^ 22 := pow_le_pow_right₀ (by norm_num) h
      _ ≤ 2 ^ (74 : ℤ) := by norm_num
  rw [powersOfTen_eq ⟨e, by omega⟩ h', value?_ofNat_model, Nat.cast_pow, Nat.cast_ofNat,
    rounded_eq_self hgrid hle (by norm_num) (by norm_num)]

/-- Natural numbers of `53` digits are doubles. -/
theorem rounded_natCast {n : ℕ} (h : n ≤ 2 ^ 53) : rounded n = ((n : ℚ) : Number) := by
  have hgrid : OnGrid n := by
    exact_mod_cast onGrid_intCast (n := n) (by rw [Nat.abs_cast]; exact_mod_cast h)
  have hle : |(n : ℚ)| ≤ 2 ^ (53 : ℤ) := by
    rw [Nat.abs_cast]
    exact_mod_cast h
  exact rounded_eq_self hgrid hle (by norm_num) (by norm_num)

/-- **A decimal is rounded once.** -/
theorem value?_ofScientific (m : ℕ) (s : Bool) (e : ℕ) :
    value? (Float.ofScientific m s e) =
      some (rounded (if s then m / 10 ^ e else m * 10 ^ e)) := by
  unfold Float.ofScientific
  by_cases h : m < 2 ^ 53 ∧ e ≤ 22
  · -- both factors are doubles, so the one operation on them is the only rounding
    obtain ⟨hm, he⟩ := h
    have hn : m.toUInt64.toNat = m := by
      rw [Nat.toUInt64, UInt64.toNat_ofNat']
      omega
    have hm' : value? m.toUInt64.toFloat = some ((m : ℚ) : Number) := by
      rw [value?_toFloat, hn, rounded_natCast hm.le]
    have hpow := value?_powersOfTen he (by simp [Float.exactlyRepresentablePowersOfTen]; omega)
    rw [dif_pos ⟨hm, he⟩]
    cases s
    · exact value?_mul hm' hpow
    · exact value?_div hm' hpow (by positivity)
  · rw [dif_neg h]
    cases s
    · have := ofScientific_value? m (Int.ofNat e)
      rw [Int.ofNat_eq_natCast, zpow_natCast] at this
      exact this
    · have := ofScientific_value? m (Int.negOfNat e)
      rw [Int.negOfNat_eq, zpow_neg, Int.ofNat_eq_natCast, zpow_natCast, ← div_eq_mul_inv] at this
      exact this

/-- **Natural numbers are rounded.** -/
theorem value?_nearest (n : ℕ) : value? (nearest n) = some (rounded n) := by
  unfold nearest
  split
  · rename_i h
    have hn : n.toUInt64.toNat = n := by
      rw [Nat.toUInt64, UInt64.toNat_ofNat']
      omega
    rw [value?_toFloat, hn]
  · have := value?_ofScientific n false 0
    rw [if_neg Bool.false_ne_true, pow_zero, mul_one] at this
    exact this

theorem value?_nearest_of_le {n : ℕ} (h : n ≤ 2 ^ 53) :
    value? (nearest n) = some ((n : ℚ) : Number) := by
  rw [value?_nearest, rounded_natCast h]

/-- One half is a double. -/
theorem value?_half : value? (0.5 : Float) = some ((1 / 2 : ℚ) : Number) := by
  have h := value?_ofScientific 5 true 1
  have hgrid : OnGrid (1 / 2) := ⟨1, -1, by norm_num, by norm_num, by norm_num⟩
  have hle : |(1 / 2 : ℚ)| ≤ 2 ^ (0 : ℤ) := by
    rw [abs_of_nonneg (by norm_num)]
    norm_num
  rw [if_pos rfl, show ((5 : ℕ) : ℚ) / 10 ^ 1 = 1 / 2 by norm_num,
    rounded_eq_self hgrid hle (by norm_num) (by norm_num)] at h
  exact h

end Quadrature.Double

import Quadrature.Proofs.Double.Rounding

/-!
# Rounding in the bit model of doubles

Lean's own model of doubles computes with a natural mantissa, an exponent, and a note on what was
cut off below the mantissa. Here each of its operations is equated with an operation on rational
numbers followed by `near`.

* `Accurate`: what the note says about the exact number.
* `Holds`: an unpacked double in **canonical form** with a sign and a magnitude; there is only one
  (`Holds.unique`).
* `roundWithAccuracy_holds`: the rounding of the model is `near`.
* `mul_holds`, `div_holds`, `add_hasValue`, `sub_hasValue`: the operations round the exact result.
-/

namespace Quadrature.Double

open Float.Model Float.Model.UnpackedFloat

/-! ### What is cut off -/

/-- Where a number lies in the step above a mantissa. -/
def Accurate (m : ℕ) (x : ℚ) : Accuracy → Prop
  | .exact => x = m
  | .inexact .lt => m < x ∧ x < m + 1 / 2
  | .inexact .eq => x = m + 1 / 2
  | .inexact .gt => m + 1 / 2 < x ∧ x < m + 1

variable {m : ℕ} {e : ℤ} {x : ℚ} {a : Accuracy}

theorem Accurate.le (h : Accurate m x a) : (m : ℚ) ≤ x := by
  unfold Accurate at h
  split at h <;> linarith

theorem Accurate.lt (h : Accurate m x a) : x < m + 1 := by
  unfold Accurate at h
  split at h <;> linarith

theorem Accurate.floor_eq (h : Accurate m x a) : ⌊x⌋ = m :=
  Int.floor_eq_iff.2 ⟨by exact_mod_cast h.le, by exact_mod_cast h.lt⟩

/-- **The note is enough to round.** -/
theorem Accurate.roundToNearestEven_eq (h : Accurate m x a) :
    (a.roundToNearestEven m : ℤ) = halfEven x := by
  have hf := h.floor_eq
  have hx : Int.fract x = x - m := by unfold Int.fract; rw [hf]; norm_num
  unfold halfEven
  rw [hx, hf]
  unfold Accurate at h
  split at h
  · rw [if_pos (by linarith)]; rfl
  · rw [if_pos (by linarith)]; rfl
  · rw [if_neg (by linarith), if_neg (by linarith)]; rfl
  · rw [if_neg (by linarith), if_pos (by linarith)]; rfl

theorem accurate_ofMantissaAndAccuracy (h : Accurate m x a) :
    Accurate (ExtendedMantissa.ofMantissaAndAccuracy m a).mantissa x
      (ExtendedMantissa.ofMantissaAndAccuracy m a).accuracy := by
  cases a with
  | exact => exact h
  | inexact o => cases o <;> exact h

/-- One digit moves from the mantissa into the note. -/
theorem accurate_shiftRightOne {em : ExtendedMantissa} (h : Accurate em.mantissa x em.accuracy) :
    Accurate em.shiftRightOne.mantissa (x / 2) em.shiftRightOne.accuracy := by
  obtain ⟨m, r, s⟩ := em
  -- the digit that leaves is the next half, and what had left before is below it
  have hm : (m : ℚ) = 2 * (m / 2 : ℕ) ∧ (m % 2 != 0) = false ∨
      (m : ℚ) = 2 * (m / 2 : ℕ) + 1 ∧ (m % 2 != 0) = true := by
    rcases Nat.mod_two_eq_zero_or_one m with h2 | h2
    · refine .inl ⟨?_, by rw [h2]; rfl⟩
      exact_mod_cast (show m = 2 * (m / 2) by omega)
    · refine .inr ⟨?_, by rw [h2]; rfl⟩
      exact_mod_cast (show m = 2 * (m / 2) + 1 by omega)
  rcases hm with ⟨hm, hb⟩ | ⟨hm, hb⟩ <;> cases r <;> cases s <;>
    simp only [ExtendedMantissa.shiftRightOne, ExtendedMantissa.accuracy, hb, Accurate,
      Bool.or_true, Bool.or_false] at h ⊢ <;>
    first
    | linarith
    | exact ⟨by linarith, by linarith⟩

theorem accurate_shiftRight {em : ExtendedMantissa} (n : ℕ)
    (h : Accurate em.mantissa x em.accuracy) :
    Accurate (em >>> n).mantissa (x / 2 ^ n) (em >>> n).accuracy := by
  induction n with
  | zero =>
    rw [pow_zero, div_one]
    exact h
  | succ n ih =>
    have := accurate_shiftRightOne ih
    rw [div_div, ← pow_succ] at this
    exact this

/-- The mantissa and the exponent move together. -/
theorem accurate_shiftToExponent (h : Accurate m x a) (t : ℤ) :
    Accurate (shiftToExponent m e a t).1.mantissa (x * 2 ^ e / 2 ^ max e t)
        (shiftToExponent m e a t).1.accuracy ∧
      (shiftToExponent m e a t).2 = max e t := by
  have hmax : max e t = e + (t - e).toNat := by omega
  refine ⟨?_, hmax.symm⟩
  have hx : x * 2 ^ e / 2 ^ max e t = x / 2 ^ (t - e).toNat := by
    have he := two_zpow_pos e
    rw [hmax, zpow_add₀ two_ne_zero, zpow_natCast, mul_comm x, mul_div_mul_left _ _ he.ne']
  rw [hx]
  exact accurate_shiftRight _ (accurate_ofMantissaAndAccuracy h)

/-! ### The exponent that is aimed at -/

/-- The exponent of the canonical form. -/
theorem targetExponent_eq (t : ℤ) : Format.binary64.targetExponent t = max (t - 53) (-1074) := rfl

theorem targetExponent_totalExponent (hm : m ≠ 0) (h : Accurate m x a) :
    Format.binary64.targetExponent (totalExponent m e) = gridExp (x * 2 ^ e) := by
  have he := two_zpow_pos e
  have hm' : (1 : ℚ) ≤ m := by exact_mod_cast Nat.one_le_iff_ne_zero.2 hm
  have hx : |x * 2 ^ e| = x * 2 ^ e := abs_of_nonneg (mul_nonneg (by linarith [h.le]) he.le)
  have hlow : (2 : ℚ) ^ ((m.log2 : ℤ) + e) ≤ |x * 2 ^ e| := by
    rw [hx, zpow_add₀ two_ne_zero, zpow_natCast]
    refine mul_le_mul_of_nonneg_right (le_trans ?_ h.le) he.le
    exact_mod_cast Nat.log2_self_le hm
  have hhigh : |x * 2 ^ e| < (2 : ℚ) ^ ((m.log2 : ℤ) + e + 1) := by
    rw [hx, show (m.log2 : ℤ) + e + 1 = ((m.log2 + 1 : ℕ) : ℤ) + e by push_cast; ring,
      zpow_add₀ two_ne_zero, zpow_natCast]
    refine mul_lt_mul_of_pos_right (lt_of_lt_of_le h.lt ?_) he
    exact_mod_cast Nat.lt_log2_self
  rw [gridExp_eq hlow hhigh, targetExponent_eq]
  unfold totalExponent
  omega

/-! ### The canonical form -/

/-- `53` digits, fewer only on the finest grid. -/
structure Canonical (m : ℕ) (e : ℤ) : Prop where
  lt : m < 2 ^ 53
  le : -1074 ≤ e
  full : 2 ^ 52 ≤ m ∨ e = -1074

/-- An unpacked double in canonical form with this sign and this magnitude. -/
inductive Holds : Sign → ℚ → UnpackedFloat → Prop
  | zero (s : Sign) : Holds s 0 (.zero s)
  | finite (s : Sign) {m : ℕ} {e : ℤ} (hm : 0 < m) (hc : Canonical m e) :
    Holds s (m * 2 ^ e) (.finite s m e hm)

/-- A magnitude with its sign. -/
def signed : Sign → ℚ → ℚ
  | .negative, q => -q
  | .positive, q => q

/-- An unpacked double in canonical form with this value, whatever the sign of a zero. -/
def HasValue (v : ℚ) (u : UnpackedFloat) : Prop := ∃ s q, Holds s q u ∧ signed s q = v

theorem Canonical.onGrid (h : Canonical m e) : OnGrid (m * 2 ^ e) :=
  ⟨m, e, by rw [Nat.abs_cast]; exact_mod_cast h.lt.le, h.le, by norm_cast⟩

theorem Holds.nonneg {s : Sign} {q : ℚ} {u : UnpackedFloat} (h : Holds s q u) : 0 ≤ q := by
  cases h with
  | zero => exact le_rfl
  | finite => exact mul_nonneg (Nat.cast_nonneg _) (two_zpow_pos _).le

theorem Holds.onGrid {s : Sign} {q : ℚ} {u : UnpackedFloat} (h : Holds s q u) : OnGrid q := by
  cases h with
  | zero => exact_mod_cast onGrid_intCast (n := 0) (by norm_num)
  | finite _ hc => exact hc.onGrid

theorem signed_mul (s t : Sign) (p q : ℚ) : signed (s * t) (p * q) = signed s p * signed t q := by
  cases s <;> cases t
  · exact (neg_mul_neg p q).symm
  · exact (neg_mul p q).symm
  · exact (mul_neg p q).symm
  · rfl

theorem signed_div (s t : Sign) (p q : ℚ) : signed (s / t) (p / q) = signed s p / signed t q := by
  cases s <;> cases t
  · exact (neg_div_neg_eq p q).symm
  · exact (neg_div q p).symm
  · exact (div_neg p).symm
  · rfl

theorem signed_neg (s : Sign) (q : ℚ) : signed (-s) q = -signed s q := by
  cases s
  · exact (neg_neg q).symm
  · rfl

@[simp] theorem signed_zero (s : Sign) : signed s 0 = 0 := by
  cases s
  · exact neg_zero
  · rfl

theorem near_signed (s : Sign) (q : ℚ) : near (signed s q) = signed s (near q) := by
  cases s
  · exact near_neg q
  · rfl

theorem signed_apply (s : Sign) (n : ℕ) (r : ℚ) :
    ((s.apply n : ℤ) : ℚ) * r = signed s (n * r) := by
  cases s
  · simp [Sign.apply, signed]
  · simp [Sign.apply, signed]

theorem HasValue.onGrid {v : ℚ} {u : UnpackedFloat} (h : HasValue v u) : OnGrid v := by
  obtain ⟨s, q, hq, rfl⟩ := h
  cases s
  · exact hq.onGrid.neg
  · exact hq.onGrid

/-- After rounding up to `2 ^ 53` one more shift restores the canonical form. -/
theorem canonical_shiftToTargetExponent (hm : m ≤ 2 ^ 53) (he : -1074 ≤ e)
    (h : 2 ^ 52 ≤ m ∨ e = -1074) :
    Canonical (shiftToTargetExponent .binary64 m e .exact).1.mantissa
        (shiftToTargetExponent .binary64 m e .exact).2 ∧
      ((shiftToTargetExponent .binary64 m e .exact).1.mantissa : ℚ) *
        2 ^ (shiftToTargetExponent .binary64 m e .exact).2 = m * 2 ^ e := by
  have hg := two_zpow_pos e
  have hacc : Accurate m m .exact := rfl
  obtain ⟨hs, hexp⟩ := accurate_shiftToExponent (e := e) hacc
    (Format.binary64.targetExponent (totalExponent m e))
  unfold shiftToTargetExponent
  generalize shiftToExponent m e .exact _ = p at hs hexp
  have hle := hs.le
  have hlt := hs.lt
  rw [targetExponent_eq, totalExponent] at hexp hle hlt
  rcases hm.lt_or_eq with hm | hm
  · -- with at most `53` digits nothing moves
    have hlog : m.log2 < 53 := by
      by_cases h0 : m = 0
      · subst h0; decide
      · exact (Nat.log2_lt h0).2 hm
    have hmax : max e (max ((m.log2 : ℤ) + 1 + e - 53) (-1074)) = e := by omega
    rw [hmax] at hexp hle hlt
    rw [mul_div_cancel_right₀ _ hg.ne'] at hle hlt
    have hle' : p.1.mantissa ≤ m := by exact_mod_cast hle
    have hlt' : m < p.1.mantissa + 1 := by exact_mod_cast hlt
    have hpm : p.1.mantissa = m := by omega
    rw [hpm, hexp]
    exact ⟨⟨hm, he, h⟩, rfl⟩
  · -- the one digit too many is a zero, and is shifted out
    have hlog : m.log2 = 53 := by rw [hm, Nat.log2_two_pow]
    have hmax : max e (max ((m.log2 : ℤ) + 1 + e - 53) (-1074)) = e + 1 := by omega
    have hhalf : (m : ℚ) * 2 ^ e / 2 ^ (e + 1) = (2 ^ 52 : ℕ) := by
      rw [hm, zpow_add₀ two_ne_zero, zpow_one]; field_simp; norm_num
    rw [hmax] at hexp hle hlt
    rw [hhalf] at hle hlt
    have hle' : p.1.mantissa ≤ 2 ^ 52 := by exact_mod_cast hle
    have hlt' : 2 ^ 52 < p.1.mantissa + 1 := by exact_mod_cast hlt
    have hpm : p.1.mantissa = 2 ^ 52 := by omega
    rw [hpm, hexp, ← hhalf]
    exact ⟨⟨by norm_num, by omega, .inl le_rfl⟩, div_mul_cancel₀ _ (two_zpow_pos _).ne'⟩

/-- What the rounded mantissa is after the first shift. -/
theorem near_eq_of_targetExponent {t : ℤ} {r : ℕ} (h : Accurate m x a) (hm : m ≠ 0 ∨ e ≤ -1074)
    (ht : Format.binary64.targetExponent (totalExponent m e) = t)
    (hr : (r : ℤ) = halfEven (x * 2 ^ e / 2 ^ t)) :
    near (x * 2 ^ e) = r * 2 ^ t ∧ r ≤ 2 ^ 53 ∧ -1074 ≤ t ∧ (2 ^ 52 ≤ r ∨ t = -1074) := by
  have hg := two_zpow_pos t
  have hr' : (r : ℚ) = halfEven (x * 2 ^ e / 2 ^ t) := by exact_mod_cast hr
  have hx : 0 ≤ x * 2 ^ e := mul_nonneg ((Nat.cast_nonneg m).trans h.le) (two_zpow_pos e).le
  -- rounding does not pass a whole number of steps
  have hsize : ∀ k : ℤ, x * 2 ^ e ≤ k * 2 ^ t → (r : ℤ) ≤ k := by
    intro k hk
    rw [hr]
    have := halfEven_mono ((div_le_iff₀ hg).2 hk)
    rwa [halfEven_intCast] at this
  by_cases h0 : m = 0
  · -- nothing but the note: less than a step of the finest grid
    have he' : e ≤ -1074 := hm.resolve_left fun h => h h0
    subst h0
    have ht' : t = -1074 := by
      rw [← ht, targetExponent_eq, totalExponent, Nat.log2_zero]
      omega
    have h1 : x < 1 := by
      have := h.lt
      rwa [Nat.cast_zero, zero_add] at this
    have hlt : x * 2 ^ e < 2 ^ t := by
      calc x * 2 ^ e < 1 * 2 ^ e := mul_lt_mul_of_pos_right h1 (two_zpow_pos e)
        _ = 2 ^ e := one_mul _
        _ ≤ 2 ^ t := two_zpow_le (by omega)
    refine ⟨?_, ?_, ht'.ge, .inr ht'⟩
    · rw [near_of_lt, hr', ht']
      rw [abs_of_nonneg hx]
      exact hlt.trans_le (two_zpow_le (by omega))
    · have := hsize 1 (by rw [Int.cast_one, one_mul]; exact hlt.le)
      omega
  · -- the first digit is in the mantissa, so the exponent aimed at is that of the grid
    have ht' : t = gridExp (x * 2 ^ e) := by rw [← ht, targetExponent_totalExponent h0 h]
    have hpos : 0 < x * 2 ^ e := by
      refine mul_pos (lt_of_lt_of_le ?_ h.le) (two_zpow_pos e)
      exact_mod_cast Nat.pos_of_ne_zero h0
    refine ⟨by rw [near, ← ht', hr'], ?_, ht' ▸ neg_1074_le_gridExp _, ?_⟩
    · have hlt := abs_lt_mul_gridExp (q := x * 2 ^ e)
      rw [abs_of_pos hpos, ← ht'] at hlt
      have := hsize (2 ^ 53) (by push_cast; exact hlt.le)
      omega
    · refine or_iff_not_imp_right.2 ?_
      intro hne
      have hle := mul_gridExp_le_abs hpos.ne' (ht' ▸ hne)
      rw [abs_of_pos hpos, ← ht'] at hle
      have hle' : (((2 ^ 52 : ℕ) : ℤ) : ℚ) ≤ x * 2 ^ e / 2 ^ t := by
        rw [le_div_iff₀ hg]; push_cast; exact hle
      have := halfEven_mono hle'
      rw [halfEven_intCast, ← hr] at this
      exact_mod_cast this

/-- **The rounding of the model is `near`**, once the exponent is not above the one aimed at. -/
theorem roundWithAccuracy_holds (s : Sign) (h : Accurate m x a) (hm : m ≠ 0 ∨ e ≤ -1074)
    (he : e ≤ Format.binary64.targetExponent (totalExponent m e)) :
    Holds s (near (x * 2 ^ e)) (roundWithAccuracy .binary64 s m e a) := by
  obtain ⟨t, ht⟩ : ∃ t, Format.binary64.targetExponent (totalExponent m e) = t := ⟨_, rfl⟩
  obtain ⟨p, hp⟩ : ∃ p, shiftToTargetExponent .binary64 m e a = p := ⟨_, rfl⟩
  obtain ⟨hacc, hexp⟩ := accurate_shiftToExponent (e := e) h t
  -- the first shift lands on the grid, and the note rounds what it leaves
  have hp' : shiftToExponent m e a t = p := by rw [← hp, shiftToTargetExponent, ht]
  rw [max_eq_right (ht ▸ he), hp'] at hacc hexp
  obtain ⟨hn, hr53, ht1074, hr52⟩ :=
    near_eq_of_targetExponent h hm ht hacc.roundToNearestEven_eq
  obtain ⟨hc, hv⟩ := canonical_shiftToTargetExponent hr53 ht1074 hr52
  rw [hn, ← hv]
  unfold roundWithAccuracy
  rw [hp]
  dsimp only
  rw [hexp]
  -- the second shift, which only repairs a mantissa that was rounded up to `2 ^ 53`
  have hround : p.1.accuracy.roundToNearestEven p.1.mantissa = p.1.roundedMantissa := rfl
  rw [hround] at hc ⊢
  generalize shiftToTargetExponent .binary64 p.1.roundedMantissa t .exact = r at hc ⊢
  by_cases h0 : r.1.mantissa = 0
  · rw [dif_pos h0, h0, Nat.cast_zero, zero_mul]
    exact .zero s
  · rw [dif_neg h0]
    exact .finite s (Nat.pos_of_ne_zero h0) hc

/-! ### The operations -/

theorem decreaseExponent_spec (m : ℕ) (e t : ℤ) :
    ((decreaseExponent m e t).1 : ℚ) * 2 ^ (decreaseExponent m e t).2 = m * 2 ^ e ∧
      (decreaseExponent m e t).2 = min e t := by
  have ht : min e t = e - (e - t).toNat := by omega
  refine ⟨?_, ht.symm⟩
  unfold decreaseExponent
  dsimp only
  rw [Nat.shiftLeft_eq, zpow_sub₀ two_ne_zero, zpow_natCast]
  push_cast
  field_simp

theorem accurate_exact (m : ℕ) : Accurate m m .exact := rfl

/-- Rounding from any mantissa. -/
theorem round_holds (s : Sign) (hm : m ≠ 0) (e : ℤ) :
    Holds s (near (m * 2 ^ e)) (UnpackedFloat.round .binary64 s m e) := by
  have hgrid := targetExponent_totalExponent (e := e) hm (accurate_exact m)
  obtain ⟨hv, hexp⟩ := decreaseExponent_spec m e
    (Format.binary64.targetExponent (totalExponent m e))
  obtain ⟨⟨n, k⟩, hp⟩ : ∃ p, decreaseExponent m e
    (Format.binary64.targetExponent (totalExponent m e)) = p := ⟨_, rfl⟩
  rw [hp] at hv hexp
  dsimp only at hv hexp
  -- widened, the mantissa has an exponent that is not above the one aimed at
  have hn : n ≠ 0 := by
    intro h0
    rw [h0, Nat.cast_zero, zero_mul] at hv
    exact mul_ne_zero (Nat.cast_ne_zero.2 hm) (two_zpow_pos e).ne' hv.symm
  have hk : k ≤ Format.binary64.targetExponent (totalExponent n k) := by
    rw [targetExponent_totalExponent hn (accurate_exact n), hv, ← hgrid, hexp]
    exact min_le_right _ _
  have hr := roundWithAccuracy_holds s (accurate_exact n) (.inl hn) hk
  unfold UnpackedFloat.round
  dsimp only
  rwa [hp, ← hv]

theorem normalize_hasValue (n e : ℤ) :
    HasValue (near (n * 2 ^ e)) (UnpackedFloat.normalize .binary64 n e .positive) := by
  unfold UnpackedFloat.normalize
  split
  · rename_i h
    have hn : n < 0 := Int.compare_eq_lt.1 h
    have hv : (n : ℚ) * 2 ^ e = signed .negative (((-n).toNat : ℕ) * 2 ^ e) := by
      have : ((-n).toNat : ℤ) = -n := Int.toNat_of_nonneg (by omega)
      have : (((-n).toNat : ℕ) : ℚ) = -n := by exact_mod_cast this
      rw [this, signed]; ring
    exact ⟨_, _, round_holds .negative (by omega) e, by rw [hv, near_signed]⟩
  · rename_i h
    have hn : n = 0 := Int.compare_eq_eq.1 h
    exact ⟨_, _, .zero _, by rw [hn, Int.cast_zero, zero_mul, near_zero]; rfl⟩
  · rename_i h
    have hn : 0 < n := Int.compare_eq_gt.1 h
    have hv : (n : ℚ) * 2 ^ e = signed .positive ((n.toNat : ℕ) * 2 ^ e) := by
      have : (n.toNat : ℤ) = n := Int.toNat_of_nonneg (by omega)
      have : ((n.toNat : ℕ) : ℚ) = n := by exact_mod_cast this
      rw [this, signed]
    exact ⟨_, _, round_holds .positive (by omega) e, by rw [hv, near_signed]⟩

section Binary

variable {s t : Sign} {p q : ℚ} {u w : UnpackedFloat}

theorem neg_holds (h : Holds s q u) : Holds (-s) q u.neg := by
  cases h with
  | zero => exact .zero _
  | finite hm hc => exact .finite _ hm hc

theorem mul_finite_holds {n : ℕ} {k : ℤ} (hm : 0 < m) (hn : 0 < n)
    (hlog : 52 ≤ (m * n).log2 ∨ e + k ≤ -1074) :
    Holds (s * t) (near (m * 2 ^ e * (n * 2 ^ k)))
      (UnpackedFloat.mul .binary64 (.finite s m e hm) (.finite t n k hn)) := by
  have hv : (m : ℚ) * 2 ^ e * (n * 2 ^ k) = ((m * n : ℕ) : ℚ) * 2 ^ (e + k) := by
    rw [zpow_add₀ two_ne_zero]; push_cast; ring
  rw [hv]
  refine roundWithAccuracy_holds _ (accurate_exact _) (.inl (Nat.mul_pos hm hn).ne') ?_
  rw [targetExponent_eq, totalExponent]
  omega

/-- **Products** are rounded. -/
theorem mul_holds (hu : Holds s p u) (hw : Holds t q w) :
    Holds (s * t) (near (p * q)) (UnpackedFloat.mul .binary64 u w) := by
  cases hu with
  | zero =>
    rw [zero_mul, near_zero]
    cases hw with
    | zero => exact .zero _
    | finite => exact .zero _
  | @finite m e hm hc =>
    cases hw with
    | zero =>
      rw [mul_zero, near_zero]
      exact .zero _
    | @finite n k hn hc' =>
      have hmn : m * n ≠ 0 := (Nat.mul_pos hm hn).ne'
      -- a factor with all its digits leaves enough of them in the product
      refine mul_finite_holds hm hn ?_
      rcases hc.full with hf | hf
      · exact .inl ((Nat.le_log2 hmn).2 (hf.trans (Nat.le_mul_of_pos_right m hn)))
      rcases hc'.full with hf' | hf'
      · exact .inl ((Nat.le_log2 hmn).2 (hf'.trans (Nat.le_mul_of_pos_left n hm)))
      · right; omega

theorem accurate_accuracyOfFraction (n : ℕ) {r d : ℕ} (h : r < d) :
    Accurate n (n + r / d) (accuracyOfFraction r d) := by
  have hd : (0 : ℚ) < d := by exact_mod_cast Nat.zero_lt_of_lt h
  have hr : (r : ℚ) / d < 1 := by
    rw [div_lt_one hd]; exact_mod_cast h
  unfold accuracyOfFraction
  split
  · rename_i h0
    rw [h0]
    simp [Accurate]
  rename_i h0
  have hr0 : 0 < (r : ℚ) / d := div_pos (by exact_mod_cast Nat.pos_of_ne_zero h0) hd
  rcases Nat.lt_trichotomy (2 * r) d with hlt | heq | hgt
  · rw [Nat.compare_eq_lt.2 hlt]
    have : (r : ℚ) / d < 1 / 2 := by
      rw [div_lt_iff₀ hd]
      have : (2 * r : ℚ) < d := by exact_mod_cast hlt
      linarith
    exact ⟨by linarith, by linarith⟩
  · rw [Nat.compare_eq_eq.2 heq]
    have : (r : ℚ) / d = 1 / 2 := by
      rw [div_eq_iff hd.ne']
      have : (2 * r : ℚ) = d := by exact_mod_cast heq
      linarith
    exact congrArg _ this
  · rw [Nat.compare_eq_gt.2 hgt]
    have : 1 / 2 < (r : ℚ) / d := by
      rw [lt_div_iff₀ hd]
      have : (d : ℚ) < 2 * r := by exact_mod_cast hgt
      linarith
    exact ⟨by linarith, by linarith⟩

/-- The quotient of the mantissas with enough digits, and the note on its remainder. -/
theorem divCore_spec {n : ℕ} {k : ℤ} (hm : m ≠ 0) (hn : n ≠ 0) :
    ∃ y : ℚ, Accurate (divCore .binary64 m e n k).1 y (divCore .binary64 m e n k).2.2 ∧
      y * 2 ^ (divCore .binary64 m e n k).2.1 = m * 2 ^ e / (n * 2 ^ k) ∧
      ((divCore .binary64 m e n k).2.1 ≤ -1074 ∨ 2 ^ 52 ≤ (divCore .binary64 m e n k).1) := by
  obtain ⟨t, ht⟩ : ∃ t, min (e - k) (Format.binary64.targetExponent
    (totalExponent m e - totalExponent n k)) = t := ⟨_, rfl⟩
  have hdiv : divCore .binary64 m e n k = (m <<< (e - k - t).toNat / n, t,
      accuracyOfFraction (m <<< (e - k - t).toNat % n) n) := by rw [← ht]; rfl
  rw [hdiv]
  dsimp only
  -- the dividend is widened by `i` digits before the division
  obtain ⟨i, hi⟩ : ∃ i, (e - k - t).toNat = i := ⟨_, rfl⟩
  have hi' : e - k = i + t := by omega
  rw [hi, Nat.shiftLeft_eq]
  have hn0 : (n : ℚ) ≠ 0 := Nat.cast_ne_zero.2 hn
  refine ⟨_, accurate_accuracyOfFraction _ (Nat.mod_lt _ (Nat.pos_of_ne_zero hn)), ?_, ?_⟩
  · have hq : ((m * 2 ^ i / n : ℕ) : ℚ) + (m * 2 ^ i % n : ℕ) / n = (m * 2 ^ i : ℕ) / n := by
      rw [eq_div_iff hn0, add_mul, div_mul_cancel₀ _ hn0]
      exact_mod_cast Nat.div_add_mod' _ _
    have he : (2 : ℚ) ^ e = 2 ^ i * 2 ^ t * 2 ^ k := by
      rw [← zpow_natCast, ← zpow_add₀ two_ne_zero, ← zpow_add₀ two_ne_zero]
      congr 1
      omega
    have hk := (two_zpow_pos k).ne'
    rw [hq, he]
    push_cast
    field_simp
  · -- by the choice of `i`, the quotient has all its digits above the finest grid
    refine or_iff_not_imp_left.2 ?_
    intro hlow
    rw [targetExponent_eq, totalExponent, totalExponent] at ht
    have hlog : n.log2 + 53 ≤ m.log2 + i := by omega
    rw [Nat.le_div_iff_mul_le (Nat.pos_of_ne_zero hn)]
    calc 2 ^ 52 * n ≤ 2 ^ 52 * 2 ^ (n.log2 + 1) := Nat.mul_le_mul_left _ Nat.lt_log2_self.le
      _ = 2 ^ (n.log2 + 53) := by rw [← pow_add]; congr 1; omega
      _ ≤ 2 ^ (m.log2 + i) := Nat.pow_le_pow_right two_pos hlog
      _ = 2 ^ m.log2 * 2 ^ i := pow_add _ _ _
      _ ≤ m * 2 ^ i := Nat.mul_le_mul_right _ (Nat.log2_self_le hm)

theorem div_finite_holds {n : ℕ} {k : ℤ} (hm : 0 < m) (hn : 0 < n) :
    Holds (s / t) (near (m * 2 ^ e / (n * 2 ^ k)))
      (UnpackedFloat.div .binary64 (.finite s m e hm) (.finite t n k hn)) := by
  obtain ⟨y, hacc, hy, hsize⟩ := divCore_spec (e := e) (k := k) hm.ne' hn.ne'
  rw [← hy]
  have hdiv : UnpackedFloat.div .binary64 (.finite s m e hm) (.finite t n k hn) =
      roundWithAccuracy .binary64 (s / t) (divCore .binary64 m e n k).1
        (divCore .binary64 m e n k).2.1 (divCore .binary64 m e n k).2.2 := rfl
  rw [hdiv]
  generalize divCore .binary64 m e n k = r at hacc hsize
  obtain ⟨n', k', a⟩ := r
  dsimp only at hacc hsize ⊢
  refine roundWithAccuracy_holds _ hacc ?_ ?_
  · omega
  · rw [targetExponent_eq, totalExponent]
    rcases hsize with h | h
    · -- on the finest grid no exponent is too small
      omega
    · have : 52 ≤ n'.log2 := (Nat.le_log2 (by omega)).2 h
      omega

/-- **Quotients** by anything but zero are rounded. -/
theorem div_holds (hu : Holds s p u) (hw : Holds t q w) (hq : q ≠ 0) :
    Holds (s / t) (near (p / q)) (UnpackedFloat.div .binary64 u w) := by
  cases hw with
  | zero => exact absurd rfl hq
  | finite hn =>
    cases hu with
    | zero =>
      rw [zero_div, near_zero]
      exact .zero _
    | finite hm => exact div_finite_holds hm hn

end Binary

section Sums

variable {v v' : ℚ} {u u' : UnpackedFloat}

theorem apply_decreaseExponent (s : Sign) (m : ℕ) {e t : ℤ} (h : t ≤ e) :
    ((s.apply (decreaseExponent m e t).1 : ℤ) : ℚ) * 2 ^ t = signed s (m * 2 ^ e) := by
  obtain ⟨hv, he⟩ := decreaseExponent_spec m e t
  rw [min_eq_right h] at he
  rw [signed_apply, ← hv, he]

/-- **Sums** are rounded. -/
theorem add_hasValue (h : HasValue v u) (h' : HasValue v' u') :
    HasValue (near (v + v')) (UnpackedFloat.add .binary64 u u') := by
  have hg := h.onGrid
  have hg' := h'.onGrid
  obtain ⟨s, q, hq, rfl⟩ := h
  obtain ⟨s', q', hq', rfl⟩ := h'
  cases hq with
  | zero =>
    rw [signed_zero, zero_add, near_eq_self hg']
    cases hq' with
    | zero =>
      rw [signed_zero]
      change HasValue 0 (if s == s' then .zero s else .zero .positive)
      split
      · exact ⟨_, _, .zero _, signed_zero _⟩
      · exact ⟨_, _, .zero _, signed_zero _⟩
    | finite hm hc => exact ⟨_, _, .finite _ hm hc, rfl⟩
  | @finite m e hm hc =>
    cases hq' with
    | zero =>
      rw [signed_zero, add_zero, near_eq_self hg]
      exact ⟨_, _, .finite _ hm hc, rfl⟩
    | @finite m' e' hm' hc' =>
      -- both are brought to the smaller exponent, where the integers are added
      rw [← apply_decreaseExponent s m (min_le_left e e'),
        ← apply_decreaseExponent s' m' (min_le_right e e'), ← add_mul, ← Int.cast_add]
      exact normalize_hasValue _ _

/-- Subtracting is adding the negation, signs of zeros included. -/
theorem model_sub_eq (u w : UnpackedFloat) :
    UnpackedFloat.sub .binary64 u w = UnpackedFloat.add .binary64 u w.neg := by
  cases u with
  | finite s m e hm =>
    cases w with
    | finite t n k hn =>
      have happly : ∀ i : ℤ, (-t).apply i = -t.apply i := by
        intro i
        cases t
        · exact (neg_neg _).symm
        · rfl
      change UnpackedFloat.normalize .binary64 (s.apply _ - t.apply _) _ _ =
        UnpackedFloat.normalize .binary64 (s.apply _ + (-t).apply _) _ _
      rw [happly, sub_eq_add_neg]
    | _ => rfl
  | _ => cases w <;> rfl

theorem neg_hasValue (h : HasValue v u) : HasValue (-v) u.neg := by
  obtain ⟨s, q, hq, rfl⟩ := h
  exact ⟨-s, q, neg_holds hq, signed_neg s q⟩

/-- **Differences** are rounded. -/
theorem sub_hasValue (h : HasValue v u) (h' : HasValue v' u') :
    HasValue (near (v - v')) (UnpackedFloat.sub .binary64 u u') := by
  rw [model_sub_eq, sub_eq_add_neg]
  exact add_hasValue h (neg_hasValue h')

end Sums

/-! ### The order -/

/-- In canonical form the exponents are compared first. -/
theorem Canonical.lt_of_lt {n : ℕ} {k : ℤ} (h : Canonical m e) (h' : Canonical n k) (hek : e < k) :
    (m : ℚ) * 2 ^ e < n * 2 ^ k := by
  -- a coarser grid than another is not the finest, so `n` has all its digits
  have hn : 2 ^ 52 ≤ n := by
    refine h'.full.resolve_right ?_
    intro hk
    have := h.le
    omega
  have hk : (2 : ℚ) * 2 ^ e ≤ 2 ^ k := by
    rw [← zpow_one_add₀ two_ne_zero]
    exact two_zpow_le (by omega)
  calc (m : ℚ) * 2 ^ e < 2 ^ 53 * 2 ^ e :=
        mul_lt_mul_of_pos_right (by exact_mod_cast h.lt) (two_zpow_pos e)
    _ = 2 ^ 52 * (2 * 2 ^ e) := by ring
    _ ≤ 2 ^ 52 * 2 ^ k := mul_le_mul_of_nonneg_left hk (by norm_num)
    _ ≤ n * 2 ^ k := mul_le_mul_of_nonneg_right (by exact_mod_cast hn) (two_zpow_pos k).le

theorem Canonical.compare_eq {n : ℕ} {k : ℤ} (h : Canonical m e) (h' : Canonical n k) :
    (compare e k).then (compare m n) = compare ((m : ℚ) * 2 ^ e) (n * 2 ^ k) := by
  rcases lt_trichotomy e k with hek | rfl | hek
  · rw [compare_lt_iff_lt.2 hek, compare_lt_iff_lt.2 (h.lt_of_lt h' hek)]
    rfl
  · have hg := two_zpow_pos e
    rw [compare_eq_iff_eq.2 rfl]
    rcases lt_trichotomy m n with hmn | rfl | hmn
    · have : (m : ℚ) * 2 ^ e < n * 2 ^ e := mul_lt_mul_of_pos_right (by exact_mod_cast hmn) hg
      rw [compare_lt_iff_lt.2 hmn, compare_lt_iff_lt.2 this]
      rfl
    · rw [compare_eq_iff_eq.2 rfl, compare_eq_iff_eq.2 rfl]
      rfl
    · have : (n : ℚ) * 2 ^ e < m * 2 ^ e := mul_lt_mul_of_pos_right (by exact_mod_cast hmn) hg
      rw [compare_gt_iff_gt.2 hmn, compare_gt_iff_gt.2 this]
      rfl
  · rw [compare_gt_iff_gt.2 hek, compare_gt_iff_gt.2 (h'.lt_of_lt h hek)]
    rfl

/-- **A magnitude has one canonical form.** -/
theorem Holds.unique {s : Sign} {q : ℚ} {u w : UnpackedFloat} (h : Holds s q u)
    (h' : Holds s q w) : u = w := by
  have hpos : ∀ {m : ℕ} {e : ℤ}, 0 < m → (m : ℚ) * 2 ^ e ≠ 0 := by
    intro m e hm
    exact mul_ne_zero (Nat.cast_ne_zero.2 hm.ne') (two_zpow_pos _).ne'
  cases h with
  | zero =>
    generalize hq : (0 : ℚ) = q at h'
    cases h' with
    | zero => rfl
    | finite hm => exact absurd hq.symm (hpos hm)
  | @finite m e hm hc =>
    generalize hq : (m : ℚ) * 2 ^ e = q at h'
    cases h' with
    | zero => exact absurd hq (hpos hm)
    | @finite n k hn hc' =>
      -- equal magnitudes compare as equal, first by exponent and then by mantissa
      have hcmp := hc.compare_eq hc'
      rw [hq, compare_eq_iff_eq.2 rfl, Ordering.then_eq_eq, compare_eq_iff_eq,
        compare_eq_iff_eq] at hcmp
      obtain ⟨rfl, rfl⟩ := hcmp
      rfl

end Quadrature.Double

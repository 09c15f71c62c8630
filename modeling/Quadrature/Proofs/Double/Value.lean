import Mathlib.Order.WithBotTop
import Quadrature.Proofs.Double.Packing
import Quadrature.Scalar

/-!
# The numbers that doubles stand for

A double that is a number stands for a rational number or for an infinity (`value?`). An operation
on finite doubles rounds the exact result and puts infinities in the place of what is out of range
(`rounded`); comparisons compare what the doubles stand for.

* `rounded_mono`: **rounding is monotone**, with the infinities at the ends.
* `value?_add`, `value?_sub`, `value?_mul`, `value?_div`: the operations.
* `lt_iff`, `le_iff`, `beq_iff`, `isFinite_iff`: the comparisons.
-/

namespace Quadrature.Double

open Float.Model Float.Model.UnpackedFloat

/-- Rational numbers between two infinities. -/
abbrev Number := WithBotTop ℚ

attribute [coe] WithBotTop.coe

attribute [norm_cast] WithBotTop.coe_le_coe WithBotTop.coe_lt_coe

@[norm_cast] theorem coe_inj {q r : ℚ} : (q : Number) = r ↔ q = r :=
  WithBotTop.coe_injective.eq_iff

theorem compare_coe (q r : ℚ) : compare (q : Number) r = compare q r := by
  rcases lt_trichotomy q r with h | h | h
  · rw [compare_lt_iff_lt.2 h, compare_lt_iff_lt]
    exact_mod_cast h
  · rw [compare_eq_iff_eq.2 h, compare_eq_iff_eq]
    exact_mod_cast h
  · rw [compare_gt_iff_gt.2 h, compare_gt_iff_gt]
    exact_mod_cast h

theorem compare_neg (q r : ℚ) : compare (-q) (-r) = (compare q r).swap := by
  rcases lt_trichotomy q r with h | h | h
  · rw [compare_lt_iff_lt.2 h]
    exact compare_gt_iff_gt.2 (neg_lt_neg h)
  · rw [compare_eq_iff_eq.2 h]
    exact compare_eq_iff_eq.2 (congrArg _ h)
  · rw [compare_gt_iff_gt.2 h]
    exact compare_lt_iff_lt.2 (neg_lt_neg h)

theorem coe_lt_top (q : ℚ) : (q : Number) < ⊤ := WithBot.coe_lt_coe.2 (WithTop.coe_lt_top q)

theorem bot_lt_coe (q : ℚ) : ⊥ < (q : Number) := WithBot.bot_lt_coe (q : WithTop ℚ)

/-- What an unpacked double stands for. -/
def number? : UnpackedFloat → Option Number
  | .notANumber => none
  | .infinity .positive => some ⊤
  | .infinity .negative => some ⊥
  | .zero _ => some (0 : ℚ)
  | .finite s m e _ => some (signed s (m * 2 ^ e))

/-- What a double stands for, if it is a number. -/
def value? (x : Float) : Option Number := number? x.toModel.unpack

/-! ### Rounding into the range -/

/-- A rational number, with infinities in the place of what is out of range. -/
def inRange (q : ℚ) : Number := if limit ≤ q then ⊤ else if q ≤ -limit then ⊥ else q

/-- A rational number as it is rounded to a double. -/
def rounded (q : ℚ) : Number := inRange (near q)

theorem inRange_mono {q r : ℚ} (h : q ≤ r) : inRange q ≤ inRange r := by
  have hl := limit_pos
  unfold inRange
  split_ifs with h1 h2 h3 h4 h5 h6
  · exact le_rfl
  · linarith
  · linarith
  · exact le_top
  · exact bot_le
  · exact bot_le
  · exact le_top
  · linarith
  · exact_mod_cast h

/-- **Rounding is monotone.** -/
theorem rounded_mono {q r : ℚ} (h : q ≤ r) : rounded q ≤ rounded r := inRange_mono (near_mono h)

theorem inRange_of_abs_lt {q : ℚ} (h : |q| < limit) : inRange q = q := by
  rw [abs_lt] at h
  unfold inRange
  rw [if_neg (not_le.2 h.2), if_neg (not_le.2 h.1)]

theorem abs_lt_of_inRange {q r : ℚ} (h : inRange q = r) : |q| < limit ∧ q = r := by
  unfold inRange at h
  split_ifs at h with h1 h2
  · exact absurd h.symm (coe_lt_top r).ne
  · exact absurd h (bot_lt_coe r).ne
  · exact ⟨abs_lt.2 ⟨not_le.1 h2, not_le.1 h1⟩, by exact_mod_cast h⟩

/-- Up to `2 ^ 1023` nothing is out of range. -/
theorem rounded_of_abs_le {q : ℚ} {k : ℤ} (h : |q| ≤ 2 ^ k) (hk : -1074 ≤ k) (hk' : k ≤ 1023) :
    rounded q = near q := by
  have hgrid := near_eq_self (onGrid_two_zpow hk)
  have habs : |near q| ≤ 2 ^ k := by
    rw [abs_le] at h ⊢
    constructor
    · have := near_mono h.1
      rwa [near_neg, hgrid] at this
    · have := near_mono h.2
      rwa [hgrid] at this
  rw [rounded, inRange_of_abs_lt]
  rw [limit_eq]
  exact habs.trans_lt (zpow_lt_zpow_right₀ one_lt_two (by omega))

/-- A double in that range is not moved. -/
theorem rounded_eq_self {q : ℚ} {k : ℤ} (hq : OnGrid q) (h : |q| ≤ 2 ^ k) (hk : -1074 ≤ k)
    (hk' : k ≤ 1023) : rounded q = q := by
  rw [rounded_of_abs_le h hk hk', near_eq_self hq]

theorem rounded_nonneg {q : ℚ} (hq : 0 ≤ q) :
    rounded q = ⊤ ∨ ∃ r : ℚ, 0 ≤ r ∧ rounded q = (r : Number) := by
  have hl := limit_pos
  have hn := near_nonneg hq
  unfold rounded inRange
  split_ifs with h1 h2
  · exact .inl rfl
  · linarith
  · exact .inr ⟨near q, hn, rfl⟩

/-- What is rounded between two rational numbers is rational. -/
theorem exists_coe {a b : ℚ} {v : Number} (ha : (a : Number) ≤ v) (hb : v ≤ (b : Number)) :
    ∃ q : ℚ, v = (q : Number) ∧ a ≤ q ∧ q ≤ b := by
  induction v using WithBotTop.rec with
  | bot => exact absurd ha (not_le.2 (bot_lt_coe a))
  | top => exact absurd hb (not_le.2 (coe_lt_top b))
  | coe q => exact ⟨q, rfl, by exact_mod_cast ha, by exact_mod_cast hb⟩

/-! ### The doubles as numbers -/

theorem Regular.number?_signed {s : Sign} {m : ℕ} {e : ℤ} {hm : 0 < m}
    (h : Regular (.finite s m e hm)) : Canonical m e ∧ |signed s (m * 2 ^ e)| < limit := by
  cases h with
  | finite _ _ hc he =>
    refine ⟨hc, ?_⟩
    have hv := hc.le_971_iff.1 he
    have h0 : (0 : ℚ) ≤ m * 2 ^ e := mul_nonneg (Nat.cast_nonneg m) (two_zpow_pos e).le
    cases s
    · rwa [signed, abs_neg, abs_of_nonneg h0]
    · rwa [signed, abs_of_nonneg h0]

theorem regular_unpack_model (x : Float) : Regular x.toModel.unpack := regular_unpack _

/-- A finite number is held in canonical form. -/
theorem hasValue_of_value? {x : Float} {q : ℚ} (h : value? x = some (q : Number)) :
    HasValue q x.toModel.unpack ∧ |q| < limit := by
  have hr := regular_unpack_model x
  unfold value? at h
  generalize x.toModel.unpack = u at h hr
  cases hr with
  | notANumber => cases h
  | infinity s =>
    cases s
    · exact absurd (Option.some.inj h) (bot_lt_coe q).ne
    · exact absurd (Option.some.inj h).symm (coe_lt_top q).ne
  | zero s =>
    have hq : (0 : ℚ) = q := by exact_mod_cast Option.some.inj h
    subst hq
    refine ⟨⟨s, 0, .zero s, signed_zero s⟩, ?_⟩
    rw [abs_zero]
    exact limit_pos
  | @finite s m e hm hc he =>
    have hq : signed s (m * 2 ^ e) = q := by exact_mod_cast Option.some.inj h
    subst hq
    exact ⟨⟨s, _, .finite s hm hc, rfl⟩, (Regular.finite s hm hc he).number?_signed.2⟩

/-- A double is not moved. -/
theorem rounded_of_value? {x : Float} {q : ℚ} (h : value? x = some (q : Number)) :
    rounded q = q := by
  obtain ⟨hq, hlim⟩ := hasValue_of_value? h
  rw [rounded, near_eq_self hq.onGrid, inRange_of_abs_lt hlim]

/-- What is left of a canonical form when it is packed. -/
theorem value?_pack {q : ℚ} {u : UnpackedFloat} (h : HasValue q u) :
    value? (.ofModel (.pack u)) = some (inRange q) := by
  obtain ⟨s, r, hr, rfl⟩ := h
  unfold value?
  change number? (UnpackedFloat.unpack .binary64 (UnpackedFloat.pack .binary64 u)) = _
  cases hr with
  | zero =>
    rw [(Regular.zero s).unpack_pack, signed_zero, inRange_of_abs_lt (by rw [abs_zero]; exact limit_pos)]
    rfl
  | @finite m e hm hc =>
    by_cases he : e ≤ 971
    · have hreg := Regular.finite s hm hc he
      rw [hreg.unpack_pack, inRange_of_abs_lt hreg.number?_signed.2]
      rfl
    · -- out of range, an infinity is packed instead
      have hv : limit ≤ m * 2 ^ e := not_lt.1 (mt hc.le_971_iff.2 he)
      have hl := limit_pos
      have hp : UnpackedFloat.unpack .binary64 (packedInfinity .binary64 s) = .infinity s :=
        unpack_infinity s
      rw [pack_overflow hm (not_le.1 he), hp]
      unfold inRange
      cases s
      · rw [signed, if_neg (by linarith), if_pos (by linarith)]
        rfl
      · rw [signed, if_pos hv]
        rfl

theorem value?_pack_infinity (s : Sign) :
    value? (.ofModel (.pack (.infinity s))) = number? (.infinity s) :=
  congrArg number? (unpack_infinity s)

/-! ### The operations -/

section Operations

variable {x y : Float} {a b : ℚ}

/-- **Sums** of finite doubles. -/
theorem value?_add (hx : value? x = some (a : Number)) (hy : value? y = some (b : Number)) :
    value? (x + y) = some (rounded (a + b)) :=
  value?_pack (add_hasValue (hasValue_of_value? hx).1 (hasValue_of_value? hy).1)

/-- **Differences** of finite doubles. -/
theorem value?_sub (hx : value? x = some (a : Number)) (hy : value? y = some (b : Number)) :
    value? (x - y) = some (rounded (a - b)) :=
  value?_pack (sub_hasValue (hasValue_of_value? hx).1 (hasValue_of_value? hy).1)

/-- **Products** of finite doubles. -/
theorem value?_mul (hx : value? x = some (a : Number)) (hy : value? y = some (b : Number)) :
    value? (x * y) = some (rounded (a * b)) := by
  obtain ⟨s, p, hp, rfl⟩ := (hasValue_of_value? hx).1
  obtain ⟨t, q, hq, rfl⟩ := (hasValue_of_value? hy).1
  exact value?_pack ⟨_, _, mul_holds hp hq, by rw [← near_signed, signed_mul]⟩

/-- **Quotients** of finite doubles by anything but zero. -/
theorem value?_div (hx : value? x = some (a : Number)) (hy : value? y = some (b : Number))
    (hb : b ≠ 0) : value? (x / y) = some (rounded (a / b)) := by
  obtain ⟨s, p, hp, rfl⟩ := (hasValue_of_value? hx).1
  obtain ⟨t, q, hq, rfl⟩ := (hasValue_of_value? hy).1
  have hq0 : q ≠ 0 := by
    rintro rfl
    exact hb (signed_zero t)
  exact value?_pack ⟨_, _, div_holds hp hq hq0, by rw [← near_signed, signed_div]⟩

/-- An infinite summand. -/
theorem value?_add_top (hx : value? x = some (a : Number)) (hy : value? y = some ⊤) :
    value? (x + y) = some ⊤ := by
  -- nothing else has this value
  have hu : y.toModel.unpack = .infinity .positive := by
    unfold value? at hy
    cases hy' : y.toModel.unpack with
    | notANumber => rw [hy'] at hy; cases hy
    | infinity s =>
      cases s
      · rw [hy'] at hy
        exact absurd (Option.some.inj hy) bot_lt_top.ne
      · rfl
    | zero s => rw [hy'] at hy; exact absurd (Option.some.inj hy) (coe_lt_top _).ne
    | finite => rw [hy'] at hy; exact absurd (Option.some.inj hy) (coe_lt_top _).ne
  obtain ⟨s, q, hq, -⟩ := (hasValue_of_value? hx).1
  change value? (.ofModel (.pack (UnpackedFloat.add .binary64 x.toModel.unpack y.toModel.unpack))) =
    some ⊤
  rw [hu]
  generalize x.toModel.unpack = u at hq
  cases hq <;> exact value?_pack_infinity .positive

/-- A natural number up to the largest machine word, rounded. -/
theorem value?_toFloat (n : UInt64) : value? n.toFloat = some (rounded n.toNat) := by
  have := normalize_hasValue n.toNat 0
  rw [zpow_zero, mul_one, Int.cast_natCast] at this
  exact value?_pack this

end Operations

/-! ### Comparisons -/

/-- The comparison of the model is that of the numbers. -/
theorem Regular.compare_eq {u w : UnpackedFloat} (hu : Regular u) (hw : Regular w) :
    UnpackedFloat.compare u w =
      (number? u).bind fun v => (number? w).map fun v' => compare v v' := by
  have hsign : ∀ {m : ℕ} {e : ℤ}, 0 < m → (0 : ℚ) < m * 2 ^ e := by
    intro m e hm
    exact mul_pos (Nat.cast_pos.2 hm) (two_zpow_pos e)
  have hneg : ∀ {m : ℕ} {e : ℤ}, 0 < m → -((m : ℚ) * 2 ^ e) < 0 := by
    intro m e hm
    exact neg_lt_zero.2 (hsign hm)
  cases hu with
  | notANumber => rfl
  | infinity s =>
    cases hw with
    | notANumber => cases s <;> rfl
    | infinity t =>
      have : (⊥ : Number) < ⊤ := bot_lt_top
      cases s <;> cases t
      · exact congrArg some (compare_eq_iff_eq.2 rfl).symm
      · exact congrArg some (compare_lt_iff_lt.2 this).symm
      · exact congrArg some (compare_gt_iff_gt.2 this).symm
      · exact congrArg some (compare_eq_iff_eq.2 rfl).symm
    | zero | finite =>
      cases s
      · exact congrArg some (compare_lt_iff_lt.2 (bot_lt_coe _)).symm
      · exact congrArg some (compare_gt_iff_gt.2 (coe_lt_top _)).symm
  | zero s =>
    cases hw with
    | notANumber => rfl
    | infinity t =>
      cases t
      · exact congrArg some (compare_gt_iff_gt.2 (bot_lt_coe _)).symm
      · exact congrArg some (compare_lt_iff_lt.2 (coe_lt_top _)).symm
    | zero t => exact congrArg some (compare_eq_iff_eq.2 rfl).symm
    | finite t hn =>
      cases t
      · exact congrArg some (Eq.symm ((compare_coe _ _).trans (compare_gt_iff_gt.2 (hneg hn))))
      · exact congrArg some (Eq.symm ((compare_coe _ _).trans (compare_lt_iff_lt.2 (hsign hn))))
  | @finite s m e hm hc he =>
    cases hw with
    | notANumber => rfl
    | infinity t =>
      cases t
      · exact congrArg some (compare_gt_iff_gt.2 (bot_lt_coe _)).symm
      · exact congrArg some (compare_lt_iff_lt.2 (coe_lt_top _)).symm
    | zero t =>
      cases s
      · exact congrArg some (Eq.symm ((compare_coe _ _).trans (compare_lt_iff_lt.2 (hneg hm))))
      · exact congrArg some (Eq.symm ((compare_coe _ _).trans (compare_gt_iff_gt.2 (hsign hm))))
    | @finite t n k hn hc' he' =>
      -- different signs decide, and of equal ones the canonical forms are compared
      cases s <;> cases t
      · refine congrArg some (Eq.symm ((compare_coe _ _).trans ?_))
        exact (compare_neg _ _).trans (congrArg _ (hc.compare_eq hc').symm)
      · refine congrArg some (Eq.symm ((compare_coe _ _).trans ?_))
        exact compare_lt_iff_lt.2 ((hneg hm).trans (hsign hn))
      · refine congrArg some (Eq.symm ((compare_coe _ _).trans ?_))
        exact compare_gt_iff_gt.2 ((hneg hn).trans (hsign hm))
      · refine congrArg some (Eq.symm ((compare_coe _ _).trans ?_))
        exact (hc.compare_eq hc').symm

section Comparisons

variable {x y : Float} {v w : Number}

theorem compare_of_value? (hx : value? x = some v) (hy : value? y = some w) :
    x.toModel.unpack.compare y.toModel.unpack = some (compare v w) := by
  rw [(regular_unpack_model x).compare_eq (regular_unpack_model y)]
  unfold value? at hx hy
  rw [hx, hy]
  rfl

theorem compare_of_none (h : value? x = none ∨ value? y = none) :
    x.toModel.unpack.compare y.toModel.unpack = none := by
  rw [(regular_unpack_model x).compare_eq (regular_unpack_model y)]
  unfold value? at h
  rcases h with h | h
  · rw [h]; rfl
  · rw [h]
    cases number? x.toModel.unpack <;> rfl

theorem lt_iff_compare :
    x < y ↔ (x.toModel.unpack.compare y.toModel.unpack == some .lt) = true := by
  change decide (x.toModel < y.toModel) = true ↔ _
  rw [decide_eq_true_iff]
  exact Iff.rfl

theorem le_iff_compare :
    x ≤ y ↔ (x.toModel.unpack.compare y.toModel.unpack).any Ordering.isLE = true := by
  change decide (x.toModel ≤ y.toModel) = true ↔ _
  rw [decide_eq_true_iff]
  exact Iff.rfl

theorem lt_iff (hx : value? x = some v) (hy : value? y = some w) : x < y ↔ v < w := by
  rw [lt_iff_compare, compare_of_value? hx hy, ← compare_lt_iff_lt]
  cases compare v w <;> decide

theorem le_iff (hx : value? x = some v) (hy : value? y = some w) : x ≤ y ↔ v ≤ w := by
  rw [le_iff_compare, compare_of_value? hx hy, ← compare_le_iff_le]
  cases compare v w <;> decide

theorem beq_iff (hx : value? x = some v) (hy : value? y = some w) :
    (x == y) = true ↔ v = w := by
  change (x.toModel.unpack.compare y.toModel.unpack == some .eq) = true ↔ _
  rw [compare_of_value? hx hy, ← compare_eq_iff_eq (a := v)]
  cases compare v w <;> decide

/-- What is not a number is beside every order. -/
theorem not_le_of_none (h : value? x = none ∨ value? y = none) : ¬ x ≤ y := by
  rw [le_iff_compare, compare_of_none h]
  decide

theorem exists_value_of_le (h : x ≤ y) :
    ∃ v w, value? x = some v ∧ value? y = some w ∧ v ≤ w := by
  cases hx : value? x with
  | none => exact absurd h (not_le_of_none (.inl hx))
  | some v =>
    cases hy : value? y with
    | none => exact absurd h (not_le_of_none (.inr hy))
    | some w => exact ⟨v, w, rfl, rfl, (le_iff hx hy).1 h⟩

theorem float_le_trans {z : Float} (h : x ≤ y) (h' : y ≤ z) : x ≤ z := by
  obtain ⟨u, v, hu, hv, huv⟩ := exists_value_of_le h
  obtain ⟨v', w, hv', hw, hvw⟩ := exists_value_of_le h'
  obtain rfl : v = v' := Option.some.inj (hv.symm.trans hv')
  exact (le_iff hu hw).2 (huv.trans hvw)

theorem float_not_lt_of_le (h : x ≤ y) : ¬ y < x := by
  obtain ⟨u, v, hu, hv, huv⟩ := exists_value_of_le h
  rw [lt_iff hv hu]
  exact not_lt.2 huv

theorem isFinite_iff : x.isFinite = true ↔ ∃ q : ℚ, value? x = some (q : Number) := by
  change x.toModel.unpack.isFinite = true ↔ _
  unfold value?
  cases x.toModel.unpack with
  | notANumber =>
    refine iff_of_false Bool.false_ne_true ?_
    rintro ⟨q, hq⟩
    cases hq
  | infinity s =>
    refine iff_of_false Bool.false_ne_true ?_
    rintro ⟨q, hq⟩
    cases s with
    | negative => exact (bot_lt_coe q).ne (Option.some.inj hq)
    | positive => exact (coe_lt_top q).ne' (Option.some.inj hq)
  | zero s => exact iff_of_true rfl ⟨_, rfl⟩
  | finite s m e hm => exact iff_of_true rfl ⟨_, rfl⟩

end Comparisons

end Quadrature.Double

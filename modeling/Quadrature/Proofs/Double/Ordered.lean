import Quadrature.Proofs.Double.Scientific
import Quadrature.Proofs.Sampling.Ordered

/-!
# Doubles are an ordered arithmetic

Sums, products and negations of all doubles, infinities and values that are not a number included,
in terms of what they stand for; and from these tables that the doubles are an ordered arithmetic,
so that what is said of any ordered arithmetic holds of them.

* `value?_add_eq`, `value?_mul_eq`, `value?_neg_eq`: **the tables.**
* the instance of `OrderedScalar`.
-/

namespace Quadrature.Double

open Float.Model Float.Model.UnpackedFloat

namespace Number

/-- A sum as it is rounded; opposite infinities have none. -/
def add? : Number → Number → Option Number
  | ⊤, ⊥ => none
  | ⊥, ⊤ => none
  | ⊤, _ => some ⊤
  | _, ⊤ => some ⊤
  | ⊥, _ => some ⊥
  | _, ⊥ => some ⊥
  | (a : ℚ), (b : ℚ) => some (rounded (a + b))

/-- The number on the other side of zero. -/
def neg : Number → Number
  | ⊤ => ⊥
  | ⊥ => ⊤
  | (a : ℚ) => ((-a : ℚ) : Number)

/-- An infinity times a number, if the number is not zero. -/
def scaled? (infinity v : Number) : Option Number :=
  if v = (0 : ℚ) then none else if (0 : ℚ) < v then some infinity else some infinity.neg

/-- A product as it is rounded; an infinity and zero have none. -/
def mul? : Number → Number → Option Number
  | (a : ℚ), (b : ℚ) => some (rounded (a * b))
  | (a : ℚ), w => scaled? w a
  | v, w => scaled? v w

@[simp] theorem neg_coe (a : ℚ) : neg (a : Number) = ((-a : ℚ) : Number) := rfl

theorem scaled?_pos {v : Number} {a : ℚ} (h : 0 < a) : scaled? v (a : Number) = some v := by
  unfold scaled?
  rw [if_neg, if_pos]
  · exact_mod_cast h
  · exact_mod_cast h.ne'

theorem scaled?_neg {v : Number} {a : ℚ} (h : a < 0) : scaled? v (a : Number) = some v.neg := by
  unfold scaled?
  rw [if_neg, if_neg]
  · exact_mod_cast h.le.not_gt
  · exact_mod_cast h.ne

@[simp] theorem scaled?_zero (v : Number) : scaled? v ((0 : ℚ) : Number) = none := if_pos rfl

end Number

/-! ### The tables -/

theorem value?_pack_regular {u : UnpackedFloat} (h : Regular u) :
    value? (.ofModel (.pack u)) = number? u :=
  congrArg number? h.unpack_pack

/-- What a double is unpacked to, with what it stands for. -/
inductive Reads : UnpackedFloat → Option Number → Prop
  | notANumber : Reads .notANumber none
  | top : Reads (.infinity .positive) (some ⊤)
  | bot : Reads (.infinity .negative) (some ⊥)
  | finite {s : Sign} {q : ℚ} {u : UnpackedFloat} (hr : Regular u) (h : Holds s q u) :
    Reads u (some ((signed s q : ℚ) : Number))

theorem Regular.reads {u : UnpackedFloat} (h : Regular u) : Reads u (number? u) := by
  cases h with
  | notANumber => exact .notANumber
  | infinity s =>
    cases s
    · exact .bot
    · exact .top
  | zero s =>
    have h := Reads.finite (.zero s) (Holds.zero s)
    rw [signed_zero] at h
    exact h
  | finite s hm hc he => exact .finite (.finite s hm hc he) (.finite s hm hc)

theorem reads (x : Float) : Reads x.toModel.unpack (value? x) := (regular_unpack_model x).reads

namespace Reads

variable {u u' : UnpackedFloat} {a b : Option Number}

theorem add (hu : Reads u a) (hu' : Reads u' b) :
    value? (.ofModel (.pack (UnpackedFloat.add .binary64 u u'))) =
      a.bind fun v => b.bind fun w => v.add? w := by
  cases hu with
  | notANumber => exact value?_pack_regular .notANumber
  | top =>
    cases hu' with
    | notANumber => exact value?_pack_regular .notANumber
    | top => exact value?_pack_infinity .positive
    | bot => exact value?_pack_regular .notANumber
    | finite _ h => cases h <;> exact value?_pack_infinity .positive
  | bot =>
    cases hu' with
    | notANumber => exact value?_pack_regular .notANumber
    | top => exact value?_pack_regular .notANumber
    | bot => exact value?_pack_infinity .negative
    | finite _ h => cases h <;> exact value?_pack_infinity .negative
  | finite _ h =>
    cases hu' with
    | notANumber => cases h <;> exact value?_pack_regular .notANumber
    | top => cases h <;> exact value?_pack_infinity .positive
    | bot => cases h <;> exact value?_pack_infinity .negative
    | finite _ h' => exact value?_pack (add_hasValue ⟨_, _, h, rfl⟩ ⟨_, _, h', rfl⟩)

theorem neg (hu : Reads u a) : value? (.ofModel (.pack u.neg)) = a.map Number.neg := by
  cases hu with
  | notANumber => exact value?_pack_regular .notANumber
  | top => exact value?_pack_infinity .negative
  | bot => exact value?_pack_infinity .positive
  | @finite s _ _ hr h =>
    cases h with
    | zero =>
      rw [signed_zero]
      refine (value?_pack_regular (.zero (-s))).trans ?_
      rw [Option.map_some, Number.neg_coe, neg_zero]
      rfl
    | finite hm hc =>
      cases hr with
      | finite _ _ _ he =>
        refine (value?_pack_regular (.finite (-s) hm hc he)).trans ?_
        rw [Option.map_some, Number.neg_coe, ← signed_neg]
        rfl

theorem regular_infinity_mul (t : Sign) (u : UnpackedFloat) :
    Regular (UnpackedFloat.mul .binary64 (.infinity t) u) := by
  cases u with
  | notANumber => exact .notANumber
  | infinity s => exact .infinity (t * s)
  | zero s => exact .notANumber
  | finite s m e hm => exact .infinity (t * s)

/-- An infinity times anything. -/
theorem infinity_mul (t : Sign) {v : Number} (ht : number? (.infinity t) = some v)
    (hu : Reads u a) :
    value? (.ofModel (.pack (UnpackedFloat.mul .binary64 (.infinity t) u))) =
      a.bind fun w => v.scaled? w := by
  rw [value?_pack_regular (regular_infinity_mul t u)]
  cases hu with
  | notANumber => rfl
  | top =>
    have htop : ((0 : ℚ) : Number) < ⊤ := coe_lt_top 0
    cases t <;> cases ht <;> simp [Number.scaled?, htop, htop.ne'] <;> rfl
  | bot =>
    have hbot : ⊥ < ((0 : ℚ) : Number) := bot_lt_coe 0
    cases t <;> cases ht <;> simp [Number.scaled?, hbot.not_gt, hbot.ne] <;> rfl
  | @finite s _ _ _ h =>
    cases h with
    | zero =>
      rw [signed_zero]
      exact (Number.scaled?_zero v).symm
    | @finite m e hm hc =>
      have hpos : (0 : ℚ) < m * 2 ^ e := mul_pos (Nat.cast_pos.2 hm) (two_zpow_pos e)
      have hneg : -((m : ℚ) * 2 ^ e) < 0 := neg_lt_zero.2 hpos
      cases s with
      | negative =>
        refine Eq.trans ?_ (Number.scaled?_neg (v := v) hneg).symm
        cases t <;> cases ht <;> rfl
      | positive =>
        refine Eq.trans ?_ (Number.scaled?_pos (v := v) hpos).symm
        cases t <;> cases ht <;> rfl

theorem mul_infinity (u : UnpackedFloat) (t : Sign) :
    UnpackedFloat.mul .binary64 u (.infinity t) = UnpackedFloat.mul .binary64 (.infinity t) u := by
  have hcomm : ∀ s : Sign, s * t = t * s := by
    intro s
    cases s <;> cases t <;> rfl
  cases u with
  | notANumber | zero => rfl
  | infinity s | finite s => exact congrArg UnpackedFloat.infinity (hcomm s)

theorem mul (hu : Reads u a) (hu' : Reads u' b) :
    value? (.ofModel (.pack (UnpackedFloat.mul .binary64 u u'))) =
      a.bind fun v => b.bind fun w => v.mul? w := by
  cases hu with
  | notANumber => exact value?_pack_regular .notANumber
  | top => exact infinity_mul .positive rfl hu'
  | bot => exact infinity_mul .negative rfl hu'
  | finite hr h =>
    cases hu' with
    | notANumber => cases h <;> exact value?_pack_regular .notANumber
    | top =>
      rw [mul_infinity]
      exact infinity_mul .positive rfl (.finite hr h)
    | bot =>
      rw [mul_infinity]
      exact infinity_mul .negative rfl (.finite hr h)
    | finite _ h' =>
      refine value?_pack ⟨_, _, mul_holds h h', ?_⟩
      rw [← near_signed, signed_mul]

end Reads

/-- **Sums.** -/
theorem value?_add_eq (x y : Float) :
    value? (x + y) = (value? x).bind fun v => (value? y).bind fun w => v.add? w :=
  (reads x).add (reads y)

/-- **Products.** -/
theorem value?_mul_eq (x y : Float) :
    value? (x * y) = (value? x).bind fun v => (value? y).bind fun w => v.mul? w :=
  (reads x).mul (reads y)

/-- **Negations.** -/
theorem value?_neg_eq (x : Float) : value? (-x) = (value? x).map Number.neg := (reads x).neg

/-! ### The order -/

theorem exists_value_of_lt {x y : Float} (h : x < y) :
    ∃ v w, value? x = some v ∧ value? y = some w ∧ v < w := by
  have hcompare := lt_iff_compare.1 h
  cases hx : value? x with
  | none =>
    rw [compare_of_none (.inl hx)] at hcompare
    cases hcompare
  | some v =>
    cases hy : value? y with
    | none =>
      rw [compare_of_none (.inr hy)] at hcompare
      cases hcompare
    | some w => exact ⟨v, w, rfl, rfl, (lt_iff hx hy).1 h⟩

theorem isNaN_eq_false_iff {x : Float} : x.isNaN = false ↔ ∃ v, value? x = some v := by
  have h := reads x
  change x.toModel.unpack.isNaN = false ↔ _
  generalize value? x = a at h ⊢
  generalize x.toModel.unpack = u at h ⊢
  cases h with
  | notANumber =>
    constructor
    · intro htrue
      cases (htrue : true = false)
    · rintro ⟨v, hv⟩
      cases hv
  | top | bot => exact ⟨fun _ => ⟨_, rfl⟩, fun _ => rfl⟩
  | finite _ h => cases h <;> exact ⟨fun _ => ⟨_, rfl⟩, fun _ => rfl⟩

/-- The values that compare with themselves are those that are numbers. -/
theorem isNumber_iff {x : Float} : Scalar.IsNumber x ↔ ∃ v, value? x = some v := by
  change decide (x ≤ x) = true ↔ _
  rw [decide_eq_true_iff]
  constructor
  · intro h
    obtain ⟨v, w, hv, -⟩ := exists_value_of_le h
    exact ⟨v, hv⟩
  · rintro ⟨v, hv⟩
    exact (le_iff hv hv).2 le_rfl

theorem isNumber_iff_isNaN {x : Float} : Scalar.IsNumber x ↔ x.isNaN = false := by
  rw [isNumber_iff, isNaN_eq_false_iff]

namespace Number

variable {v v' w w' z z' : Number}

/-- Below both infinities and above both there is nothing but rational numbers. -/
theorem eq_bot_or_eq_top_or (h : v ≤ v') :
    v = ⊥ ∨ v' = ⊤ ∨ ∃ a a' : ℚ, v = a ∧ v' = a' ∧ a ≤ a' := by
  induction v using WithBotTop.rec with
  | bot => exact .inl rfl
  | top => exact .inr (.inl (top_le_iff.1 h))
  | coe a =>
    induction v' using WithBotTop.rec with
    | bot => exact absurd h (not_le.2 (bot_lt_coe a))
    | top => exact .inr (.inl rfl)
    | coe a' => exact .inr (.inr ⟨a, a', rfl, rfl, by exact_mod_cast h⟩)

theorem bot_add? (h : add? ⊥ w = some z) : z = ⊥ := by
  induction w using WithBotTop.rec with
  | top => cases h
  | bot | coe => exact (Option.some.inj h).symm

theorem add?_bot (h : add? v ⊥ = some z) : z = ⊥ := by
  induction v using WithBotTop.rec with
  | top => cases h
  | bot | coe => exact (Option.some.inj h).symm

theorem top_add? (h : add? ⊤ w = some z) : z = ⊤ := by
  induction w using WithBotTop.rec with
  | bot => cases h
  | top | coe => exact (Option.some.inj h).symm

theorem add?_top (h : add? v ⊤ = some z) : z = ⊤ := by
  induction v using WithBotTop.rec with
  | bot => cases h
  | top | coe => exact (Option.some.inj h).symm

/-- **Rounded addition is monotone** as far as there are sums. -/
theorem add?_mono (hv : v ≤ v') (hw : w ≤ w') (hz : v.add? w = some z)
    (hz' : v'.add? w' = some z') : z ≤ z' := by
  rcases eq_bot_or_eq_top_or hv with rfl | rfl | ⟨a, a', rfl, rfl, ha⟩
  · rw [bot_add? hz]
    exact bot_le
  · rw [top_add? hz']
    exact le_top
  rcases eq_bot_or_eq_top_or hw with rfl | rfl | ⟨b, b', rfl, rfl, hb⟩
  · rw [add?_bot hz]
    exact bot_le
  · rw [add?_top hz']
    exact le_top
  cases hz
  cases hz'
  exact rounded_mono (add_le_add ha hb)

/-- **Rounded multiplication by what is not negative is monotone** as far as there are products. -/
theorem mul?_mono {b : ℚ} (hb : 0 ≤ b) (hv : v ≤ v') (hz : v.mul? (b : Number) = some z)
    (hz' : v'.mul? (b : Number) = some z') : z ≤ z' := by
  rcases hb.eq_or_lt with rfl | hb
  · -- zero times an infinity is no product
    rcases eq_bot_or_eq_top_or hv with rfl | rfl | ⟨a, a', rfl, rfl, ha⟩
    · cases (scaled?_zero ⊥).symm.trans hz
    · cases (scaled?_zero ⊤).symm.trans hz'
    · cases hz
      cases hz'
      rw [mul_zero, mul_zero]
  · rcases eq_bot_or_eq_top_or hv with rfl | rfl | ⟨a, a', rfl, rfl, ha⟩
    · cases (scaled?_pos hb).symm.trans hz
      exact bot_le
    · cases (scaled?_pos hb).symm.trans hz'
      exact le_top
    · cases hz
      cases hz'
      exact rounded_mono (mul_le_mul_of_nonneg_right ha hb.le)

theorem neg_anti (h : v ≤ w) : w.neg ≤ v.neg := by
  rcases eq_bot_or_eq_top_or h with rfl | rfl | ⟨a, b, rfl, rfl, hab⟩
  · exact le_top
  · exact bot_le
  · rw [neg_coe, neg_coe]
    exact_mod_cast neg_le_neg hab

end Number

theorem exists_value_of_op {op : Number → Number → Option Number} {x y z : Float}
    (hz : value? z = (value? x).bind fun v => (value? y).bind fun w => op v w)
    (h : Scalar.IsNumber z) : Scalar.IsNumber x ∧ Scalar.IsNumber y := by
  rw [isNumber_iff, hz] at h
  obtain ⟨u, hu⟩ := h
  obtain ⟨v, hv, hu⟩ := Option.bind_eq_some_iff.1 hu
  obtain ⟨w, hw, -⟩ := Option.bind_eq_some_iff.1 hu
  exact ⟨isNumber_iff.2 ⟨v, hv⟩, isNumber_iff.2 ⟨w, hw⟩⟩

theorem scalar_le_iff {x y : Float} : Scalar.le x y = true ↔ x ≤ y := decide_eq_true_iff

/-- **Doubles are an ordered arithmetic.** -/
instance : OrderedScalar Float where
  isNumber_of_le {x y} h := by
    obtain ⟨v, w, hv, hw, -⟩ := exists_value_of_le (scalar_le_iff.1 h)
    exact ⟨isNumber_iff.2 ⟨v, hv⟩, isNumber_iff.2 ⟨w, hw⟩⟩
  le_trans h h' := scalar_le_iff.2 (float_le_trans (scalar_le_iff.1 h) (scalar_le_iff.1 h'))
  le_total {x y} hx hy := by
    obtain ⟨v, hv⟩ := isNumber_iff.1 hx
    obtain ⟨w, hw⟩ := isNumber_iff.1 hy
    rw [scalar_le_iff, scalar_le_iff, le_iff hv hw, le_iff hw hv]
    exact le_total v w
  lt_iff {x y} := by
    rw [scalar_le_iff, scalar_le_iff]
    change decide (x < y) = true ↔ _
    rw [decide_eq_true_iff]
    constructor
    · intro h
      obtain ⟨v, w, hv, hw, hlt⟩ := exists_value_of_lt h
      rw [le_iff hv hw, le_iff hw hv]
      exact ⟨hlt.le, not_le.2 hlt⟩
    · rintro ⟨h, hnot⟩
      obtain ⟨v, w, hv, hw, -⟩ := exists_value_of_le h
      rw [le_iff hw hv, not_le] at hnot
      exact (lt_iff hv hw).2 hnot
  isNumber_zero := by
    exact isNumber_iff.2 ⟨_, value?_nearest_of_le (n := 0) (by norm_num)⟩
  isNumber_of_add {x y} h := exists_value_of_op (value?_add_eq x y) h
  isNumber_of_mul {x y} h := exists_value_of_op (value?_mul_eq x y) h
  isNumber_of_neg {x} h := by
    rw [isNumber_iff, value?_neg_eq] at h
    obtain ⟨v, hv⟩ := h
    obtain ⟨w, hw, -⟩ := Option.map_eq_some_iff.1 hv
    exact isNumber_iff.2 ⟨w, hw⟩
  add_le_add {x x' y y'} h h' hn hn' := by
    obtain ⟨v, v', hv, hv', hle⟩ := exists_value_of_le (scalar_le_iff.1 h)
    obtain ⟨w, w', hw, hw', hle'⟩ := exists_value_of_le (scalar_le_iff.1 h')
    obtain ⟨z, hz⟩ := isNumber_iff.1 hn
    obtain ⟨z', hz'⟩ := isNumber_iff.1 hn'
    rw [scalar_le_iff, le_iff hz hz']
    rw [value?_add_eq, hv, hw] at hz
    rw [value?_add_eq, hv', hw'] at hz'
    exact Number.add?_mono hle hle' hz hz'
  mul_le_mul {x x' y} h hy hfin hn hn' := by
    obtain ⟨v, v', hv, hv', hle⟩ := exists_value_of_le (scalar_le_iff.1 h)
    obtain ⟨b, hb⟩ := isFinite_iff.1 hfin
    obtain ⟨z, hz⟩ := isNumber_iff.1 hn
    obtain ⟨z', hz'⟩ := isNumber_iff.1 hn'
    have hb0 : 0 ≤ b := by
      have := (le_iff (value?_nearest_of_le (n := 0) (by norm_num)) hb).1 (scalar_le_iff.1 hy)
      exact_mod_cast this
    rw [scalar_le_iff, le_iff hz hz']
    rw [value?_mul_eq, hv, hb] at hz
    rw [value?_mul_eq, hv', hb] at hz'
    exact Number.mul?_mono hb0 hle hz hz'
  neg_le_neg {x y} h := by
    obtain ⟨v, w, hv, hw, hle⟩ := exists_value_of_le (scalar_le_iff.1 h)
    have hx : value? (-x) = some v.neg := by rw [value?_neg_eq, hv]; rfl
    have hy : value? (-y) = some w.neg := by rw [value?_neg_eq, hw]; rfl
    rw [scalar_le_iff, le_iff hy hx]
    exact Number.neg_anti hle

end Quadrature.Double

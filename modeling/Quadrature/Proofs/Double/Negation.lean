import Quadrature.Proofs.Decimal.Binary64
import Quadrature.Proofs.Double.Ordered

/-!
# Doubles on the other side of zero

Rounding is symmetric about zero, so an operation on negated doubles gives the negated result as a
number. Only the sign of a zero may be another one: opposite doubles add up to a zero with a plus,
whichever comes first.

* `float_neg_neg`: a double negated twice is itself.
* `value?_sub_eq`, `value?_abs_eq`, `value?_div_eq`: the tables that negation needs.
* `value?_add_neg`, `value?_sub_neg`: **sums and differences of negated doubles.**
* `alike_iff`: doubles are alike as numbers if they stand for the same.
-/

namespace Quadrature.Double

open Float.Model Float.Model.UnpackedFloat

/-! ### Numbers -/

theorem inRange_neg (q : ℚ) : inRange (-q) = (inRange q).neg := by
  have hl := limit_pos
  unfold inRange
  by_cases hhigh : limit ≤ q
  · rw [if_pos hhigh, if_neg (by linarith), if_pos (by linarith)]
    rfl
  by_cases hlow : q ≤ -limit
  · rw [if_neg hhigh, if_pos hlow, if_pos (by linarith)]
    rfl
  · rw [if_neg hhigh, if_neg hlow, if_neg (by linarith), if_neg (by linarith)]
    rfl

/-- **Rounding is symmetric about zero.** -/
theorem rounded_neg (q : ℚ) : rounded (-q) = (rounded q).neg := by
  unfold rounded
  rw [near_neg, inRange_neg]

namespace Number

/-- The distance from zero. -/
def abs : Number → Number
  | ⊤ => ⊤
  | ⊥ => ⊤
  | (a : ℚ) => ((|a| : ℚ) : Number)

/-- A quotient by a positive rational number as it is rounded. -/
def dividedBy (b : ℚ) : Number → Number
  | ⊤ => ⊤
  | ⊥ => ⊥
  | (a : ℚ) => rounded (a / b)

theorem add?_neg_neg (v w : Number) : add? v.neg w.neg = (add? v w).map neg := by
  induction v using WithBotTop.rec with
  | bot | top => induction w using WithBotTop.rec <;> rfl
  | coe a =>
    induction w using WithBotTop.rec with
    | bot | top => rfl
    | coe b =>
      change some (rounded (-a + -b)) = some (rounded (a + b)).neg
      rw [← neg_add, rounded_neg]

theorem dividedBy_neg (b : ℚ) (v : Number) : v.neg.dividedBy b = (v.dividedBy b).neg := by
  induction v using WithBotTop.rec with
  | bot | top => rfl
  | coe a =>
    change rounded (-a / b) = (rounded (a / b)).neg
    rw [neg_div, rounded_neg]

end Number

theorem number_abs_neg (v : Number) : v.neg.abs = v.abs := by
  induction v using WithBotTop.rec with
  | bot | top => rfl
  | coe a => exact congrArg (fun q : ℚ => (q : Number)) (abs_neg a)

/-! ### The tables -/

theorem unpacked_neg_neg (u : UnpackedFloat) : u.neg.neg = u := by
  have hsign : ∀ s : Sign, - -s = s := by
    intro s
    cases s <;> rfl
  cases u with
  | notANumber => rfl
  | infinity s => exact congrArg UnpackedFloat.infinity (hsign s)
  | zero s => exact congrArg UnpackedFloat.zero (hsign s)
  | finite s m e hm => exact finite_congr (hsign s) rfl rfl

/-- **A double negated twice is itself**, its bits included. -/
theorem float_neg_neg (x : Float) : - -x = x := by
  refine Decimal.float_ext ?_
  rw [Decimal.unpack_neg, Decimal.unpack_neg, unpacked_neg_neg]

theorem float_sub_eq (x y : Float) : x - y = x + -y := by
  change Float.ofModel (.pack (UnpackedFloat.sub .binary64 x.toModel.unpack y.toModel.unpack)) =
    Float.ofModel (.pack (UnpackedFloat.add .binary64 x.toModel.unpack (-y).toModel.unpack))
  rw [Decimal.unpack_neg, model_sub_eq]

/-- **Differences** of all doubles. -/
theorem value?_sub_eq (x y : Float) :
    value? (x - y) = (value? x).bind fun v => (value? y).bind fun w => v.add? w.neg := by
  rw [float_sub_eq, value?_add_eq, value?_neg_eq]
  cases value? x <;> cases value? y <;> rfl

namespace Reads

variable {u w : UnpackedFloat} {a : Option Number}

theorem abs (hu : Reads u a) : value? (.ofModel (.pack u.abs)) = a.map Number.abs := by
  cases hu with
  | notANumber => exact value?_pack_regular .notANumber
  | top | bot => exact value?_pack_infinity .positive
  | @finite s q _ hr h =>
    cases h with
    | zero =>
      refine (value?_pack_regular (.zero .positive)).trans ?_
      rw [signed_zero]
      exact congrArg (fun q : ℚ => some (q : Number)) abs_zero.symm
    | @finite m e hm hc =>
      cases hr with
      | finite _ _ _ he =>
        have habs : |signed s ((m : ℚ) * 2 ^ e)| = m * 2 ^ e := by
          have hpos : (0 : ℚ) ≤ m * 2 ^ e := mul_nonneg (Nat.cast_nonneg m) (two_zpow_pos e).le
          cases s with
          | negative => exact (abs_neg _).trans (abs_of_nonneg hpos)
          | positive => exact abs_of_nonneg hpos
        refine (value?_pack_regular (.finite .positive hm hc he)).trans ?_
        exact congrArg (fun q : ℚ => some (q : Number)) habs.symm

/-- A quotient by what is held with a plus. -/
theorem div {b : ℚ} (hu : Reads u a) (hw : Holds .positive b w) (hb : b ≠ 0) :
    value? (.ofModel (.pack (UnpackedFloat.div .binary64 u w))) = a.map (Number.dividedBy b) := by
  cases hu with
  | notANumber => cases hw <;> exact value?_pack_regular .notANumber
  | top =>
    cases hw with
    | zero => exact absurd rfl hb
    | finite => exact value?_pack_infinity .positive
  | bot =>
    cases hw with
    | zero => exact absurd rfl hb
    | finite => exact value?_pack_infinity .negative
  | @finite s q _ _ h =>
    have hdiv := value?_pack ⟨_, _, div_holds h hw hb, rfl⟩
    rw [← near_signed, signed_div] at hdiv
    exact hdiv

end Reads

/-- **Absolute values.** -/
theorem value?_abs_eq (x : Float) : value? x.abs = (value? x).map Number.abs := (reads x).abs

/-- **Quotients** by a positive double. -/
theorem value?_div_eq (x : Float) {y : Float} {b : ℚ} (hy : value? y = some (b : Number))
    (hb : 0 < b) : value? (x / y) = (value? x).map (Number.dividedBy b) := by
  obtain ⟨⟨s, q, hq, rfl⟩, -⟩ := hasValue_of_value? hy
  have hnonneg := hq.nonneg
  cases s with
  | negative =>
    -- a magnitude with a minus is not positive
    have : 0 < -q := hb
    linarith
  | positive => exact (reads x).div hq hb.ne'

/-! ### Negated operands -/

section Negated

variable (x y : Float)

theorem value?_add_neg : value? (-x + -y) = (value? (x + y)).map Number.neg := by
  rw [value?_add_eq, value?_add_eq, value?_neg_eq, value?_neg_eq]
  cases value? x with
  | none => rfl
  | some v =>
    cases value? y with
    | none => rfl
    | some w => exact Number.add?_neg_neg v w

theorem value?_sub_neg : value? (-x - -y) = (value? (x - y)).map Number.neg := by
  rw [float_sub_eq, float_sub_eq, value?_add_neg]

end Negated

/-! ### Alike as numbers -/

/-- Equal as numbers, or both not a number. -/
def Alike (x y : Float) : Prop := (x == y) = true ∨ (x.isNaN = true ∧ y.isNaN = true)

theorem isNaN_iff {x : Float} : x.isNaN = true ↔ value? x = none := by
  rw [← not_iff_not, Bool.not_eq_true, isNaN_eq_false_iff, Option.eq_none_iff_forall_ne_some]
  simp

/-- Equal doubles are numbers, and the same one. -/
theorem exists_value_of_beq {x y : Float} (h : (x == y) = true) :
    ∃ v, value? x = some v ∧ value? y = some v := by
  have hcompare : (x.toModel.unpack.compare y.toModel.unpack == some .eq) = true := h
  cases hx : value? x with
  | none =>
    rw [compare_of_none (.inl hx)] at hcompare
    cases hcompare
  | some v =>
    cases hy : value? y with
    | none =>
      rw [compare_of_none (.inr hy)] at hcompare
      cases hcompare
    | some w =>
      obtain rfl := (beq_iff hx hy).1 h
      exact ⟨v, rfl, rfl⟩

/-- **Doubles are alike if they stand for the same.** -/
theorem alike_iff {x y : Float} : Alike x y ↔ value? x = value? y := by
  unfold Alike
  rw [isNaN_iff, isNaN_iff]
  constructor
  · rintro (h | ⟨hx, hy⟩)
    · obtain ⟨v, hx, hy⟩ := exists_value_of_beq h
      rw [hx, hy]
    · rw [hx, hy]
  · intro h
    cases hx : value? x with
    | none => exact .inr ⟨rfl, h.symm.trans hx⟩
    | some v => exact .inl ((beq_iff hx (h.symm.trans hx)).2 rfl)

end Quadrature.Double

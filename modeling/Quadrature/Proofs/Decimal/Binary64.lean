import Quadrature.Decimal.Binary64
import Quadrature.Proofs.Double.Value

/-!
# The parts of a double

`Binary64.of` cuts the bits of a double with divisions and remainders. What it finds is the double
as the model of arithmetic unpacks it (`of_eq_parts`), and a double is determined by that
(`float_ext`), so a number that is found again, sign included, is the same double.
-/

namespace Quadrature.Decimal

open Double
open Float.Model Float.Model.UnpackedFloat

/-- Whether a sign is a minus. -/
def isNegative : Sign → Bool
  | .negative => true
  | .positive => false

/-- The parts of an unpacked double, a zero on the finest grid. -/
def parts : UnpackedFloat → Binary64
  | .notANumber => .nan
  | .infinity s => .infinite (isNegative s)
  | .zero s => .finite (isNegative s) ⟨0, Binary64.leastExponent⟩
  | .finite s m e _ => .finite (isNegative s) ⟨m, e⟩

theorem ofBits_packComponents (s : Sign) (x : BitVec 11) (f : BitVec 52) :
    Binary64.ofBits (packComponents .binary64 s x f).toNat =
      if x.toNat = 2047 then
        if f.toNat = 0 then .infinite (isNegative s) else .nan
      else if x.toNat = 0 then .finite (isNegative s) ⟨f.toNat, Binary64.leastExponent⟩
      else .finite (isNegative s)
        ⟨Binary64.hiddenBit + f.toNat, Binary64.leastExponent + (x.toNat - 1 : ℕ)⟩ := by
  have hx := x.isLt
  have hf := f.isLt
  have hs : signBit s ≤ 1 := by cases s <;> decide
  have hsign : (packComponents .binary64 s x f).toNat / Binary64.signBit % 2 = signBit s := by
    rw [toNat_packComponents]
    unfold Binary64.signBit
    omega
  have hexp : (packComponents .binary64 s x f).toNat / Binary64.hiddenBit % 2048 = x.toNat := by
    rw [toNat_packComponents]
    unfold Binary64.hiddenBit
    omega
  have hfrac : (packComponents .binary64 s x f).toNat % Binary64.hiddenBit = f.toNat := by
    rw [toNat_packComponents]
    unfold Binary64.hiddenBit
    omega
  have hneg : (signBit s == 1) = isNegative s := by cases s <;> rfl
  unfold Binary64.ofBits
  rw [hsign, hexp, hfrac, hneg]

/-- **The parts of a double** are those of the unpacked double. -/
theorem of_eq_parts (x : Float) : Binary64.of x = parts x.toModel.unpack := by
  have hu := unpacks x.toModel.toBits.toBitVec
  change Binary64.ofBits x.toModel.toBits.toBitVec.toNat =
    parts (UnpackedFloat.unpack .binary64 x.toModel.toBits.toBitVec)
  generalize x.toModel.toBits.toBitVec = b at hu ⊢
  generalize UnpackedFloat.unpack .binary64 b = u at hu
  cases hu with
  | infinity s => exact ofBits_packComponents s _ _
  | @notANumber s f hf =>
    have hf' : f.toNat ≠ 0 := by
      intro h
      exact hf (BitVec.eq_of_toNat_eq h)
    rw [ofBits_packComponents, show (-1#11).toNat = 2047 from rfl, if_pos rfl, if_neg hf']
    rfl
  | zero s => exact ofBits_packComponents s _ _
  | subnormal s hf => exact ofBits_packComponents s _ _
  | normal s hx hx' =>
    have hb := exponent_bounds hx hx'
    rw [ofBits_packComponents, if_neg (by omega), if_neg (by omega)]
    unfold parts Binary64.leastExponent
    congr 2
    omega

/-! ### A double and its unpacked form -/

/-- Only one word is not a number, so **every double is packed again** from its parts. -/
theorem ofModel_pack_unpack (x : Float) : Float.ofModel (.pack x.toModel.unpack) = x := by
  obtain ⟨⟨⟨b⟩, hvalid⟩⟩ := x
  have hu := unpacks b
  have hb : UnpackedFloat.pack .binary64 (UnpackedFloat.unpack .binary64 b) = b := by
    generalize UnpackedFloat.unpack .binary64 b = u at hu
    by_cases hn : u = .notANumber
    · subst hn
      cases hu with
      | notANumber s hf =>
        refine (hvalid.eq_packedNaN unpackExponent_packComponents ?_).symm
        exact unpackMantissa_packComponents.trans_ne hf
    · exact hu.pack_eq hn
  unfold Float.Model.pack Float.Model.unpack
  congr 2
  exact congrArg UInt64.ofBitVec hb

/-- **A double is determined by its unpacked form.** -/
theorem float_ext {x y : Float} (h : x.toModel.unpack = y.toModel.unpack) : x = y := by
  rw [← ofModel_pack_unpack x, h, ofModel_pack_unpack]

theorem unpack_neg (x : Float) : (-x).toModel.unpack = x.toModel.unpack.neg := by
  have hr := regular_unpack_model x
  have hneg : Regular x.toModel.unpack.neg := by
    cases hu : x.toModel.unpack with
    | notANumber => exact .notANumber
    | infinity s => exact .infinity _
    | zero s => exact .zero _
    | finite s m e hm =>
      rw [hu] at hr
      cases hr with
      | finite _ _ hc he => exact .finite _ hm hc he
  exact hneg.unpack_pack

/-- A magnitude is found again from its value, with a plus. -/
theorem unpack_of_value? {x : Float} {m : ℕ} {e : ℤ} (hm : 0 < m) (hc : Canonical m e)
    (h : value? x = some ((m * 2 ^ e : ℚ) : Number)) :
    x.toModel.unpack = .finite .positive m e hm := by
  -- a positive value has a plus, and there is one canonical form of it
  obtain ⟨⟨s, q, hq, hsq⟩, -⟩ := hasValue_of_value? h
  have hpos : (0 : ℚ) < m * 2 ^ e := mul_pos (Nat.cast_pos.2 hm) (two_zpow_pos e)
  have hnonneg := hq.nonneg
  cases s with
  | negative =>
    have : -q = (m : ℚ) * 2 ^ e := hsq
    linarith
  | positive =>
    have : q = (m : ℚ) * 2 ^ e := hsq
    subst this
    exact hq.unique (.finite .positive hm hc)

end Quadrature.Decimal

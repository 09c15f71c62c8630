import Mathlib.Algebra.Order.Floor.Semiring
import Quadrature.Proofs.Double.Value

/-!
# Whole parts of doubles

A double is cut to a machine word at its integer part; what is negative or not a number becomes
zero, and what is too large the largest word (`wholePart_eq`).
-/

namespace Quadrature.Double

open Float.Model Float.Model.UnpackedFloat

/-- The largest machine word. -/
def maxWord : ℕ := 2 ^ 64 - 1

/-- **The integer part of a number**, at least zero and at most the largest word. -/
def Number.wholePart : Number → ℕ
  | ⊤ => maxWord
  | ⊥ => 0
  | (q : ℚ) => min ⌊q⌋₊ maxWord

@[simp] theorem Number.wholePart_coe (q : ℚ) :
    Number.wholePart (q : Number) = min ⌊q⌋₊ maxWord := rfl

/-- Cutting to a word. -/
theorem toNat_ofNatClamp (n : ℕ) : (UInt64.ofNatClamp n).toNat = min n maxWord := by
  have hsize : UInt64.size = maxWord + 1 := rfl
  rcases lt_or_ge n UInt64.size with h | h
  · rw [UInt64.toNat_ofNatClamp_of_lt h]
    omega
  · rw [UInt64.toNat_ofNatClamp_of_le h]
    omega

/-- A magnitude without its binary places is its integer part. -/
theorem roundToInt_eq (s : Sign) (m : ℕ) (e : ℤ) :
    roundToInt s m e = s.apply ⌊(m : ℚ) * 2 ^ e⌋ := by
  obtain ⟨hv, he⟩ := decreaseExponent_spec m e 0
  obtain ⟨⟨n, k⟩, hp⟩ : ∃ p, decreaseExponent m e 0 = p := ⟨_, rfl⟩
  rw [hp] at hv he
  dsimp only at hv he
  -- the exponent is not positive now, so the digits behind the point are shifted out
  have hk : max k 0 = 0 := by omega
  have hshift := (accurate_shiftToExponent (e := k) (accurate_exact n) 0).1
  rw [hk, zpow_zero, div_one, hv] at hshift
  unfold roundToInt
  rw [hp, hshift.floor_eq]

/-- **The whole part of a double.** -/
theorem wholePart_eq {x : Float} {v : Number} (h : value? x = some v) :
    Scalar.wholePart x = v.wholePart := by
  change (UInt64.ofNatClamp (toInt 0 (UInt64.size - 1) x.toModel.unpack).toNat).toNat = _
  rw [toNat_ofNatClamp]
  unfold value? at h
  cases hu : x.toModel.unpack with
  | notANumber => rw [hu] at h; cases h
  | infinity s =>
    rw [hu] at h
    cases s <;> cases h <;> rfl
  | zero s =>
    rw [hu] at h
    cases h
    change min 0 maxWord = min ⌊(0 : ℚ)⌋₊ maxWord
    rw [Nat.floor_zero]
  | finite s m e hm =>
    rw [hu] at h
    obtain rfl := Option.some.inj h
    have hpos : (0 : ℚ) ≤ m * 2 ^ e := mul_nonneg (Nat.cast_nonneg m) (two_zpow_pos e).le
    have hint : toInt 0 (UInt64.size - 1) (.finite s m e hm) = s.apply ⌊(m : ℚ) * 2 ^ e⌋ :=
      roundToInt_eq s m e
    rw [hint, Number.wholePart_coe]
    cases s with
    | positive => rfl
    | negative =>
      have hfloor : 0 ≤ ⌊(m : ℚ) * 2 ^ e⌋ := Int.floor_nonneg.2 hpos
      have hzero : ⌊signed .negative ((m : ℚ) * 2 ^ e)⌋₊ = 0 :=
        Nat.floor_of_nonpos (neg_nonpos.2 hpos)
      have hneg : (Sign.negative.apply ⌊(m : ℚ) * 2 ^ e⌋).toNat = 0 := by
        simp only [Sign.apply]
        omega
      rw [hzero, hneg]

end Quadrature.Double

import Quadrature.Proofs.Double.Unpacked

/-!
# The bits of a double

A double is a sign bit, eleven bits of exponent and `52` bits of fraction
(`exists_packComponents`). The canonical forms below `2 ^ 1024` are packed without loss
(`unpack_pack`), the others become infinite (`pack_overflow`), and nothing else is ever unpacked
(`regular_unpack`). A word is of one of five kinds (`unpacks`).
-/

namespace Quadrature.Double

open Float.Model Float.Model.UnpackedFloat

/-! ### The three fields -/

/-- The sign bit. -/
def signBit : Sign → ℕ
  | .negative => 1
  | .positive => 0

theorem toNat_append {a b : ℕ} (x : BitVec a) (y : BitVec b) :
    (x ++ y).toNat = x.toNat * 2 ^ b + y.toNat := by
  rw [BitVec.toNat_append, ← Nat.shiftLeft_add_eq_or_of_lt y.isLt, Nat.shiftLeft_eq]

@[simp] theorem ofBitVec_toBitVec (s : Sign) : Sign.ofBitVec s.toBitVec = s := by
  cases s <;> rfl

@[simp] theorem unpackSign_packComponents {spec : Format} {s : Sign} {x f} :
    unpackSign (packComponents spec s x f) = s.toBitVec := by
  ext i hi
  obtain rfl : i = 0 := by omega
  unfold unpackSign packComponents
  simp [BitVec.getLsbD_eq_getElem, BitVec.getLsbD_append, BitVec.getElem_append]

variable (s : Sign) {x : BitVec 11} {f : BitVec 52}

theorem toNat_packComponents : (packComponents .binary64 s x f).toNat =
    (signBit s * 2 ^ 11 + x.toNat) * 2 ^ 52 + f.toNat := by
  unfold packComponents
  rw [toNat_append, toNat_append]
  cases s <;> rfl

/-- Every word has the three fields. -/
theorem exists_packComponents (b : BitVec 64) :
    ∃ s x f, packComponents .binary64 s x f = b := by
  have hb := b.isLt
  refine ⟨if b.toNat / 2 ^ 63 = 0 then .positive else .negative,
    BitVec.ofNat 11 (b.toNat / 2 ^ 52), BitVec.ofNat 52 b.toNat, ?_⟩
  apply BitVec.eq_of_toNat_eq
  rw [toNat_packComponents, BitVec.toNat_ofNat, BitVec.toNat_ofNat]
  split <;> simp only [signBit] <;> omega

/-! ### Unpacking -/

/-- The fields of a word, as unpacking finds them. -/
theorem fields_eq : unpackMantissa (packComponents .binary64 s x f) = f ∧
    unpackExponent (packComponents .binary64 s x f) = x ∧
    Sign.ofBitVec (unpackSign (packComponents .binary64 s x f)) = s := by
  refine ⟨unpackMantissa_packComponents, unpackExponent_packComponents, ?_⟩
  rw [unpackSign_packComponents, ofBitVec_toBitVec]

theorem finite_congr {s t : Sign} {m n : ℕ} {e k : ℤ} {hm : 0 < m} {hn : 0 < n} (hs : s = t)
    (hmn : m = n) (he : e = k) : UnpackedFloat.finite s m e hm = .finite t n k hn := by
  subst hs hmn he
  rfl

theorem unpack_normal (hx : x ≠ -1#11) (hx' : x ≠ 0#11) :
    UnpackedFloat.unpack .binary64 (packComponents .binary64 s x f) =
      .finite s (2 ^ 52 + f.toNat) (x.toNat - 1075) (by omega) := by
  obtain ⟨hm, he, hs⟩ := fields_eq s (x := x) (f := f)
  unfold UnpackedFloat.unpack
  refine (if_neg (he.trans_ne hx)).trans ((if_neg (he.trans_ne hx')).trans ?_)
  refine finite_congr hs ?_ ?_
  · rw [hm, toNat_append]
    rfl
  · rw [he]
    rfl

theorem unpack_subnormal (hf : 0 < f.toNat) :
    UnpackedFloat.unpack .binary64 (packComponents .binary64 s 0#11 f) =
      .finite s f.toNat (-1074) hf := by
  obtain ⟨hm, he, hs⟩ := fields_eq s (x := 0#11) (f := f)
  have hf' : f ≠ 0#52 := by rintro rfl; exact absurd hf (by decide)
  have hne : (0#11 : BitVec 11) ≠ -1#11 := by decide
  unfold UnpackedFloat.unpack
  refine (if_neg (he.trans_ne hne)).trans ((if_pos he).trans ((dif_neg (hm.trans_ne hf')).trans ?_))
  refine finite_congr hs ?_ ?_
  · rw [hm]
  · rw [he]
    rfl

theorem unpack_zero :
    UnpackedFloat.unpack .binary64 (packComponents .binary64 s 0#11 0#52) = .zero s := by
  cases s <;> rfl

theorem unpack_infinity :
    UnpackedFloat.unpack .binary64 (packComponents .binary64 s (-1#11) 0#52) = .infinity s := by
  cases s <;> rfl

theorem unpack_nan (hf : f ≠ 0#52) :
    UnpackedFloat.unpack .binary64 (packComponents .binary64 s (-1#11) f) = .notANumber := by
  obtain ⟨hm, he, -⟩ := fields_eq s (x := -1#11) (f := f)
  unfold UnpackedFloat.unpack
  exact (if_pos he).trans (if_neg (hm.trans_ne hf))

/-- **The kinds of words**, each with what it is unpacked to. -/
inductive Unpacks : BitVec 64 → UnpackedFloat → Prop
  | infinity (s : Sign) : Unpacks (packComponents .binary64 s (-1#11) 0#52) (.infinity s)
  | notANumber (s : Sign) {f : BitVec 52} (hf : f ≠ 0#52) :
    Unpacks (packComponents .binary64 s (-1#11) f) .notANumber
  | zero (s : Sign) : Unpacks (packComponents .binary64 s 0#11 0#52) (.zero s)
  | subnormal (s : Sign) {f : BitVec 52} (hf : 0 < f.toNat) :
    Unpacks (packComponents .binary64 s 0#11 f) (.finite s f.toNat (-1074) hf)
  | normal (s : Sign) {x : BitVec 11} {f : BitVec 52} (hx : x ≠ -1#11) (hx' : x ≠ 0#11) :
    Unpacks (packComponents .binary64 s x f)
      (.finite s (2 ^ 52 + f.toNat) (x.toNat - 1075) (by omega))

/-- Every word is of one of these kinds. -/
theorem unpacks (b : BitVec 64) : Unpacks b (UnpackedFloat.unpack .binary64 b) := by
  obtain ⟨s, x, f, rfl⟩ := exists_packComponents b
  by_cases hx : x = -1#11
  · subst hx
    by_cases hf : f = 0#52
    · subst hf
      rw [unpack_infinity]
      exact .infinity s
    · rw [unpack_nan s hf]
      exact .notANumber s hf
  by_cases hx' : x = 0#11
  · subst hx'
    by_cases hf : f = 0#52
    · subst hf
      rw [unpack_zero]
      exact .zero s
    · have hf' : 0 < f.toNat := by
        refine Nat.pos_of_ne_zero ?_
        intro h
        exact hf (BitVec.eq_of_toNat_eq h)
      rw [unpack_subnormal s hf']
      exact .subnormal s hf'
  · rw [unpack_normal s hx hx']
    exact .normal s hx hx'

/-! ### Packing -/

variable {s} {m : ℕ} {e : ℤ}

theorem pack_overflow (hm : 0 < m) (he : 971 < e) :
    UnpackedFloat.pack .binary64 (.finite s m e hm) = packedInfinity .binary64 s := by
  have h : 2 ^ Format.binary64.exponentBits ≤ (e + Format.binary64.exponentBias +
      Format.binary64.mantissaBitsWithoutImplicit).toNat + 1 := by
    simp only [Format.exponentBias]
    omega
  unfold UnpackedFloat.pack
  dsimp only
  rw [if_pos h]

theorem pack_finite (hm : 0 < m) (hc : Canonical m e) (he : e ≤ 971) :
    UnpackedFloat.pack .binary64 (.finite s m e hm) = packComponents .binary64 s
      (if 2 ^ 52 ≤ m then BitVec.ofNat 11 (e + 1075).toNat else 0#11) (BitVec.ofNat 52 m) := by
  have hlow := hc.le
  have h : ¬ 2 ^ Format.binary64.exponentBits ≤ (e + Format.binary64.exponentBias +
      Format.binary64.mantissaBitsWithoutImplicit).toNat + 1 := by
    simp only [Format.exponentBias]
    omega
  have hb : (e + Format.binary64.exponentBias +
      Format.binary64.mantissaBitsWithoutImplicit).toNat = (e + 1075).toNat := by
    simp only [Format.exponentBias]
    omega
  -- normal are the mantissas with all their digits
  have hlog : m.log2 + 1 = Format.binary64.mantissaBits ↔ 2 ^ 52 ≤ m := by
    rw [show Format.binary64.mantissaBits = 53 from rfl]
    have h52 := Nat.le_log2 (n := m) (k := 52) hm.ne'
    have h53 := (Nat.log2_lt (n := m) (k := 53) hm.ne').2 hc.lt
    rw [← h52]
    omega
  unfold UnpackedFloat.pack
  dsimp only
  rw [if_neg h, hb]
  by_cases hf : 2 ^ 52 ≤ m
  · rw [if_pos (hlog.2 hf), if_pos hf]
  · rw [if_neg (mt hlog.1 hf), if_neg hf]

/-- **A canonical form within range survives packing.** -/
theorem unpack_pack (hm : 0 < m) (hc : Canonical m e) (he : e ≤ 971) :
    UnpackedFloat.unpack .binary64 (UnpackedFloat.pack .binary64 (.finite s m e hm)) =
      .finite s m e hm := by
  have hlow := hc.le
  have hlt := hc.lt
  rw [pack_finite hm hc he]
  by_cases hf : 2 ^ 52 ≤ m
  · -- the first digit of a normal double is not stored
    have hx : (BitVec.ofNat 11 (e + 1075).toNat).toNat = (e + 1075).toNat := by
      rw [BitVec.toNat_ofNat]
      exact Nat.mod_eq_of_lt (by omega)
    have hx0 : BitVec.ofNat 11 (e + 1075).toNat ≠ 0#11 := by
      intro h
      rw [h] at hx
      simp only [BitVec.toNat_ofNat] at hx
      omega
    have hx1 : BitVec.ofNat 11 (e + 1075).toNat ≠ -1#11 := by
      intro h
      rw [h] at hx
      have : (-1#11).toNat = 2047 := rfl
      omega
    rw [if_pos hf, unpack_normal s hx1 hx0]
    congr 1
    · rw [BitVec.toNat_ofNat]
      omega
    · omega
  · -- a subnormal double keeps all its digits
    have he' := hc.full.resolve_left hf
    have hfrac : (BitVec.ofNat 52 m).toNat = m := by
      rw [BitVec.toNat_ofNat]
      exact Nat.mod_eq_of_lt (by omega)
    rw [if_neg hf, unpack_subnormal s (by omega)]
    congr 1
    exact he'.symm

/-! ### What can be unpacked -/

/-- The canonical forms within range, the infinities, and what is not a number. -/
inductive Regular : UnpackedFloat → Prop
  | notANumber : Regular .notANumber
  | infinity (s : Sign) : Regular (.infinity s)
  | zero (s : Sign) : Regular (.zero s)
  | finite (s : Sign) {m : ℕ} {e : ℤ} (hm : 0 < m) (hc : Canonical m e) (he : e ≤ 971) :
    Regular (.finite s m e hm)

theorem Regular.unpack_pack {u : UnpackedFloat} (h : Regular u) :
    UnpackedFloat.unpack .binary64 (UnpackedFloat.pack .binary64 u) = u := by
  cases h with
  | notANumber => rfl
  | infinity s => exact unpack_infinity s
  | zero s => exact unpack_zero s
  | finite s hm hc he => exact Double.unpack_pack hm hc he

/-- The exponent of a normal double lies within its bounds. -/
theorem exponent_bounds (hx : x ≠ -1#11) (hx' : x ≠ 0#11) : 0 < x.toNat ∧ x.toNat < 2047 := by
  have hlt := x.isLt
  have h0 : x.toNat ≠ 0 := fun h => hx' (BitVec.eq_of_toNat_eq h)
  have h1 : x.toNat ≠ 2047 := fun h => hx (BitVec.eq_of_toNat_eq h)
  omega

theorem canonical_normal (hx : x ≠ -1#11) (hx' : x ≠ 0#11) :
    Canonical (2 ^ 52 + f.toNat) (x.toNat - 1075) := by
  have := exponent_bounds hx hx'
  have hlt : f.toNat < 2 ^ 52 := f.isLt
  exact ⟨by omega, by omega, .inl (by omega)⟩

theorem canonical_subnormal : Canonical f.toNat (-1074) := by
  have hlt : f.toNat < 2 ^ 52 := f.isLt
  exact ⟨by omega, le_rfl, .inr rfl⟩

theorem Unpacks.regular {b : BitVec 64} {u : UnpackedFloat} (h : Unpacks b u) : Regular u := by
  cases h with
  | infinity s => exact .infinity s
  | notANumber s hf => exact .notANumber
  | zero s => exact .zero s
  | subnormal s hf => exact .finite s hf canonical_subnormal (by norm_num)
  | normal s hx hx' =>
    have := exponent_bounds hx hx'
    exact .finite s _ (canonical_normal hx hx') (by omega)

/-- **Every word unpacks to one of them.** -/
theorem regular_unpack (b : BitVec 64) : Regular (UnpackedFloat.unpack .binary64 b) :=
  (unpacks b).regular

/-- **Packing what was unpacked** gives the word back, unless it is not a number. -/
theorem Unpacks.pack_eq {b : BitVec 64} {u : UnpackedFloat} (h : Unpacks b u)
    (hu : u ≠ .notANumber) : UnpackedFloat.pack .binary64 u = b := by
  cases h with
  | infinity s => rfl
  | notANumber s hf => exact absurd rfl hu
  | zero s => rfl
  | @subnormal s f hf =>
    have hlt : f.toNat < 2 ^ 52 := f.isLt
    rw [pack_finite hf canonical_subnormal (by norm_num), if_neg (by omega), BitVec.ofNat_toNat,
      BitVec.setWidth_eq]
  | @normal s x f hx hx' =>
    have hb := exponent_bounds hx hx'
    have hlt : f.toNat < 2 ^ 52 := f.isLt
    rw [pack_finite _ (canonical_normal hx hx') (by omega), if_pos (by omega)]
    congr 1
    · apply BitVec.eq_of_toNat_eq
      rw [BitVec.toNat_ofNat]
      omega
    · apply BitVec.eq_of_toNat_eq
      rw [BitVec.toNat_ofNat]
      omega

/-- The least magnitude that is out of range. -/
@[irreducible] def limit : ℚ := 2 ^ (1024 : ℤ)

theorem limit_eq : limit = 2 ^ (1024 : ℤ) := by unfold limit; rfl

theorem limit_pos : 0 < limit := limit_eq ▸ two_zpow_pos _

/-- The range in terms of the magnitude. -/
theorem Canonical.le_971_iff (hc : Canonical m e) : e ≤ 971 ↔ (m : ℚ) * 2 ^ e < limit := by
  constructor
  · intro he
    calc (m : ℚ) * 2 ^ e < 2 ^ (53 : ℤ) * 2 ^ e :=
          mul_lt_mul_of_pos_right (by exact_mod_cast hc.lt) (two_zpow_pos e)
      _ ≤ 2 ^ (53 : ℤ) * 2 ^ (971 : ℤ) :=
          mul_le_mul_of_nonneg_left (two_zpow_le he) (two_zpow_pos _).le
      _ = limit := by rw [limit_eq, ← zpow_add₀ two_ne_zero]; rfl
  · intro hv
    by_contra he
    have hfull : 2 ^ 52 ≤ m := hc.full.resolve_right (by omega)
    have : limit ≤ m * 2 ^ e := by
      calc limit = (2 : ℚ) ^ (52 : ℤ) * 2 ^ (972 : ℤ) := by
            rw [limit_eq, ← zpow_add₀ two_ne_zero]; rfl
        _ ≤ 2 ^ (52 : ℤ) * 2 ^ e :=
            mul_le_mul_of_nonneg_left (two_zpow_le (by omega)) (two_zpow_pos _).le
        _ ≤ m * 2 ^ e := mul_le_mul_of_nonneg_right (by exact_mod_cast hfull) (two_zpow_pos e).le
    exact absurd hv (not_lt.2 this)

end Quadrature.Double

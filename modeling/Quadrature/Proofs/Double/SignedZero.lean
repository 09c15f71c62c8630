import Quadrature.Proofs.Decimal.Binary64
import Quadrature.Proofs.Double.Ordered

/-!
# Zeros with a minus

Doubles that stand for the same number are the same, but for the two zeros (`eq_of_value?_eq`).
A sum is the zero with a minus only if both summands are (`add_ne_negativeZero`): so a running sum
that begins at the zero with a plus never meets the other one, and is determined by what its terms
stand for (`fold_eq_of_value?_eq`).
-/

namespace Quadrature.Double

open Float.Model Float.Model.UnpackedFloat

/-- The zero with a minus. -/
def IsNegativeZero (x : Float) : Prop := x.toModel.unpack = .zero .negative

/-! ### Doubles that stand for the same -/

/-- The sign of a number that is not zero is its sign as a double. -/
theorem sign_eq_of_signed_eq {s t : Sign} {p q : ℚ} (hp : 0 < p) (hq : 0 < q)
    (h : signed s p = signed t q) : s = t ∧ p = q := by
  cases s <;> cases t <;> simp only [signed] at h
  · exact ⟨rfl, by linarith⟩
  · linarith
  · linarith
  · exact ⟨rfl, h⟩

/-- Finite doubles in canonical form. -/
theorem Holds.eq_of_signed_eq {s t : Sign} {p q : ℚ} {u w : UnpackedFloat} (hu : Holds s p u)
    (hw : Holds t q w) (hv : signed s p = signed t q) (hu' : u ≠ .zero .negative)
    (hw' : w ≠ .zero .negative) : u = w := by
  cases hu with
  | zero =>
    cases hw with
    | zero =>
      cases s with
      | negative => exact absurd rfl hu'
      | positive =>
        cases t with
        | negative => exact absurd rfl hw'
        | positive => rfl
    | @finite n k hn hc =>
      have hpos : (0 : ℚ) < n * 2 ^ k := mul_pos (Nat.cast_pos.2 hn) (two_zpow_pos k)
      cases s <;> cases t <;> simp only [signed] at hv <;> linarith
  | @finite m e hm hc =>
    have hpos : (0 : ℚ) < m * 2 ^ e := mul_pos (Nat.cast_pos.2 hm) (two_zpow_pos e)
    cases hw with
    | zero => cases s <;> cases t <;> simp only [signed] at hv <;> linarith
    | @finite n k hn hc' =>
      have hpos' : (0 : ℚ) < n * 2 ^ k := mul_pos (Nat.cast_pos.2 hn) (two_zpow_pos k)
      obtain ⟨rfl, heq⟩ := sign_eq_of_signed_eq hpos hpos' hv
      have hn' : Holds s (m * 2 ^ e) (.finite s n k hn) := heq ▸ .finite s hn hc'
      exact Holds.unique (.finite s hm hc) hn'

theorem Reads.eq_of_eq {u w : UnpackedFloat} {a b : Option Number} (hu : Reads u a)
    (hw : Reads w b) (hab : a = b) (hu' : u ≠ .zero .negative) (hw' : w ≠ .zero .negative) :
    u = w := by
  cases hu with
  | notANumber =>
    cases hw with
    | notANumber => rfl
    | top | bot | finite => cases hab
  | top =>
    cases hw with
    | notANumber => cases hab
    | top => rfl
    | bot => exact absurd (Option.some.inj hab) bot_lt_top.ne'
    | finite => exact absurd (Option.some.inj hab) (coe_lt_top _).ne'
  | bot =>
    cases hw with
    | notANumber => cases hab
    | top => exact absurd (Option.some.inj hab) bot_lt_top.ne
    | bot => rfl
    | finite => exact absurd (Option.some.inj hab) (bot_lt_coe _).ne
  | finite _ h =>
    cases hw with
    | notANumber => cases hab
    | top => exact absurd (Option.some.inj hab) (coe_lt_top _).ne
    | bot => exact absurd (Option.some.inj hab) (bot_lt_coe _).ne'
    | finite _ h' => exact h.eq_of_signed_eq h' (coe_inj.1 (Option.some.inj hab)) hu' hw'

/-- **Doubles that stand for the same are the same**, but for the zero with a minus. -/
theorem eq_of_value?_eq {x y : Float} (h : value? x = value? y) (hx : ¬ IsNegativeZero x)
    (hy : ¬ IsNegativeZero y) : x = y :=
  Decimal.float_ext ((reads x).eq_of_eq (reads y) h hx hy)

/-! ### Sums -/

theorem zero_ne_negativeZero : ¬ IsNegativeZero (Scalar.ofNat 0) := by
  have hplus : (Scalar.ofNat 0 : Float).toModel.unpack = .zero .positive := by rfl
  intro h
  unfold IsNegativeZero at h
  rw [hplus] at h
  cases h

/-- On the finest grid only zero is rounded to zero. -/
theorem eq_zero_of_near_eq_zero {n k : ℤ} (hk : -1074 ≤ k) (h : near (n * 2 ^ k) = 0) :
    n = 0 := by
  have hpos : ∀ m : ℤ, 0 < m → near (m * 2 ^ k) ≠ 0 := by
    intro m hm
    have hm' : (1 : ℚ) ≤ m := by exact_mod_cast hm
    have hle := near_mono (le_mul_of_one_le_left (two_zpow_pos k).le hm')
    rw [near_eq_self (onGrid_two_zpow hk)] at hle
    exact (lt_of_lt_of_le (two_zpow_pos k) hle).ne'
  rcases lt_trichotomy n 0 with hn | hn | hn
  · have hneg : near ((-n : ℤ) * 2 ^ k) = 0 := by
      push_cast
      rw [neg_mul, near_neg, h, neg_zero]
    exact absurd hneg (hpos (-n) (by omega))
  · exact hn
  · exact absurd h (hpos n hn)

/-- Finite summands that cancel leave the zero with a plus. -/
theorem normalize_ne_negativeZero {n k : ℤ} (hk : -1074 ≤ k) :
    UnpackedFloat.normalize .binary64 n k .positive ≠ .zero .negative := by
  intro h
  have hvalue := normalize_hasValue n k
  rw [h] at hvalue
  obtain ⟨s, q, hq, hsq⟩ := hvalue
  cases hq with
  | zero =>
    rw [signed_zero] at hsq
    have hn : n = 0 := eq_zero_of_near_eq_zero hk hsq.symm
    rw [hn] at h
    cases h

/-- What is unpacked as the zero with a minus was packed as it. -/
theorem HasValue.eq_of_unpack_pack {v : ℚ} {u : UnpackedFloat} (h : HasValue v u)
    (hzero : UnpackedFloat.unpack .binary64 (UnpackedFloat.pack .binary64 u) = .zero .negative) :
    u = .zero .negative := by
  obtain ⟨s, q, hq, -⟩ := h
  cases hq with
  | zero => rwa [(Regular.zero s).unpack_pack] at hzero
  | @finite m e hm hc =>
    by_cases he : e ≤ 971
    · rw [(Regular.finite s hm hc he).unpack_pack] at hzero
      cases hzero
    · have hinfinity : UnpackedFloat.unpack .binary64 (packedInfinity .binary64 s) = .infinity s :=
        unpack_infinity s
      rw [pack_overflow hm (not_le.1 he), hinfinity] at hzero
      cases hzero

theorem add_eq_negativeZero {v v' : ℚ} {u u' : UnpackedFloat} (h : HasValue v u)
    (h' : HasValue v' u') (hzero : UnpackedFloat.add .binary64 u u' = .zero .negative) :
    u = .zero .negative := by
  obtain ⟨s, q, hq, -⟩ := h
  obtain ⟨s', q', hq', -⟩ := h'
  cases hq with
  | zero =>
    cases hq' with
    | zero =>
      -- two zeros: only if both have a minus
      cases s with
      | negative => rfl
      | positive => cases s' <;> cases hzero
    | finite => cases hzero
  | @finite m e hm hc =>
    cases hq' with
    | zero => cases hzero
    | @finite m' e' hm' hc' =>
      have hexp : -1074 ≤ min e e' := le_min hc.le hc'.le
      exact absurd hzero (normalize_ne_negativeZero hexp)

theorem Number.finite_of_add?_eq {v w : Number} {q : ℚ} (h : v.add? w = some (q : Number)) :
    ∃ a b : ℚ, v = (a : Number) ∧ w = (b : Number) := by
  have htop := coe_lt_top q
  have hbot := bot_lt_coe q
  induction v using WithBotTop.rec with
  | bot => exact absurd (bot_add? h) hbot.ne'
  | top => exact absurd (top_add? h) htop.ne
  | coe a =>
    induction w using WithBotTop.rec with
    | bot => exact absurd (add?_bot h) hbot.ne'
    | top => exact absurd (add?_top h) htop.ne
    | coe b => exact ⟨a, b, rfl, rfl⟩

/-- **A sum is the zero with a minus only if its first summand is.** -/
theorem add_ne_negativeZero {x : Float} (hx : ¬ IsNegativeZero x) (y : Float) :
    ¬ IsNegativeZero (x + y) := by
  intro h
  have hvalue : value? (x + y) = some ((0 : ℚ) : Number) := by
    unfold value?
    rw [h]
    rfl
  -- a sum that is zero has finite summands
  rw [value?_add_eq] at hvalue
  obtain ⟨v, hv, hvalue⟩ := Option.bind_eq_some_iff.1 hvalue
  obtain ⟨w, hw, hvalue⟩ := Option.bind_eq_some_iff.1 hvalue
  obtain ⟨a, b, rfl, rfl⟩ := Number.finite_of_add?_eq hvalue
  have hx' := (hasValue_of_value? hv).1
  have hy' := (hasValue_of_value? hw).1
  exact hx (add_eq_negativeZero hx' hy' ((add_hasValue hx' hy').eq_of_unpack_pack h))

/-- **A running sum that begins at zero is determined by what its terms stand for.** -/
theorem fold_eq_of_value?_eq {v w : ℕ → Float} {d : Float} {n : ℕ}
    (h : ∀ i < n, value? (v i) = value? (w i)) :
    n.fold (fun i _ s => s + v i * d) (Scalar.ofNat 0) =
      n.fold (fun i _ s => s + w i * d) (Scalar.ofNat 0) := by
  suffices hsum : n.fold (fun i _ s => s + v i * d) (Scalar.ofNat 0) =
      n.fold (fun i _ s => s + w i * d) (Scalar.ofNat 0) ∧
        ¬ IsNegativeZero (n.fold (fun i _ s => s + w i * d) (Scalar.ofNat 0)) from hsum.1
  induction n with
  | zero =>
    rw [Nat.fold_zero, Nat.fold_zero]
    exact ⟨rfl, zero_ne_negativeZero⟩
  | succ n ih =>
    obtain ⟨heq, hzero⟩ := ih fun i hi => h i (by omega)
    have hterm : value? (v n * d) = value? (w n * d) := by
      rw [value?_mul_eq, value?_mul_eq, h n (by omega)]
    simp only [Nat.fold_succ]
    rw [heq]
    generalize n.fold (fun i _ s => s + w i * d) (Scalar.ofNat 0) = s at hzero
    -- neither of the two new sums is the zero with a minus
    have hvalue : value? (s + v n * d) = value? (s + w n * d) := by
      rw [value?_add_eq, value?_add_eq, hterm]
    exact ⟨eq_of_value?_eq hvalue (add_ne_negativeZero hzero _) (add_ne_negativeZero hzero _),
      add_ne_negativeZero hzero _⟩

end Quadrature.Double

import Quadrature.Decimal.Layout
import Quadrature.Decimal.Literal
import Quadrature.Proofs.Decimal.Shortest
import Quadrature.Proofs.Double.Scientific

/-!
# Reading numerals

A numeral without an exponent is digits, and perhaps a point and more digits. It is found again
whole (`mantissa?_withPlaces`), it is none of the words for values that are not finite
(`special?_of_isDigit`), and its digits are rounded once, also where the size alone decides
(`value?_scaled`).
-/

namespace Quadrature.Decimal

open Double

/-! ### Runs of digits -/

/-- A text of digits. -/
def Digits (cs : List Char) : Prop := ∀ c ∈ cs, c.isDigit = true

theorem Digits.append {cs ds : List Char} (h : Digits cs) (h' : Digits ds) : Digits (cs ++ ds) := by
  intro c hc
  rcases List.mem_append.1 hc with hc | hc
  · exact h c hc
  · exact h' c hc

theorem digits_zeros (n : ℕ) : Digits (List.replicate n '0') := by
  intro c hc
  rw [List.eq_of_mem_replicate hc]
  rfl

theorem digits_toDigits (n : ℕ) : Digits (Nat.toDigits 10 n) :=
  fun _ hc => Nat.isDigit_of_mem_toDigits (by norm_num) (by norm_num) hc

/-- A text that does not go on with a digit. -/
def NoDigit (cs : List Char) : Prop := ∀ c ∈ cs.head?, c.isDigit = false

theorem spanDigits_append {ds rest : List Char} (hd : Digits ds) (hr : NoDigit rest) :
    spanDigits (ds ++ rest) = (ds, rest) := by
  have htake : rest.takeWhile Char.isDigit = [] := by
    cases rest with
    | nil => rfl
    | cons c cs => simp [hr c rfl]
  have hdrop : rest.dropWhile Char.isDigit = rest := by
    cases rest with
    | nil => rfl
    | cons c cs => simp [hr c rfl]
  unfold spanDigits
  rw [List.span_eq_takeWhile_dropWhile, List.takeWhile_append_of_pos hd,
    List.dropWhile_append_of_pos hd, htake, hdrop, List.append_nil]

theorem noDigit_nil : NoDigit [] := by
  intro c hc
  cases hc

theorem spanDigits_digits {ds : List Char} (hd : Digits ds) : spanDigits ds = (ds, []) := by
  have := spanDigits_append hd noDigit_nil
  rwa [List.append_nil] at this

/-- The digits of a number with zeros before and after them. -/
theorem natural_zeros_toDigits_zeros (n a b : ℕ) :
    natural (List.replicate a '0' ++ (Nat.toDigits 10 n ++ List.replicate b '0')) = n * 10 ^ b := by
  change Nat.ofDigitChars 10 _ 0 = _
  rw [Nat.ofDigitChars_append, Nat.ofDigitChars_append, Nat.ofDigitChars_replicate_zero,
    Nat.ofDigitChars_replicate_zero, mul_zero, Nat.ofDigitChars_ten_toDigits, mul_comm]

/-! ### Numerals without an exponent -/

theorem sign_of_ne {c : Char} (hminus : c ≠ '-') (hplus : c ≠ '+') (cs : List Char) :
    sign (c :: cs) = (false, c :: cs) := by
  unfold sign
  split
  · rename_i heq
    exact absurd (List.cons.inj heq).1 hminus
  · rename_i heq
    exact absurd (List.cons.inj heq).1 hplus
  · rfl

/-- A digit is no sign. -/
theorem sign_of_isDigit {c : Char} (h : c.isDigit = true) (cs : List Char) :
    sign (c :: cs) = (false, c :: cs) := by
  refine sign_of_ne ?_ ?_ cs
  · rintro rfl
    revert h
    decide
  · rintro rfl
    revert h
    decide

theorem toLower_of_isDigit {c : Char} (h : c.isDigit = true) : c.toLower = c := by
  have hle : ¬ (c.val ≥ 'A'.val ∧ c.val ≤ 'Z'.val) := by
    simp only [Char.isDigit, Bool.and_eq_true, decide_eq_true_eq] at h
    rintro ⟨hA, -⟩
    exact absurd (UInt32.le_trans hA h.2) (by decide)
  unfold Char.toLower
  rw [dif_neg hle]

/-- A digit begins none of the words for values that are not finite. -/
theorem special?_of_isDigit {c : Char} (h : c.isDigit = true) (cs : List Char) :
    special? (c :: cs) = none := by
  have hn : 'n' ≠ c := by rintro rfl; revert h; decide
  have hi : 'i' ≠ c := by rintro rfl; revert h; decide
  simp [special?, specials, lowerAscii, toLower_of_isDigit h, hn, hi]

/-- **A numeral without an exponent is found whole.** -/
theorem mantissa?_withPlaces {whole places : List Char} (hw : Digits whole) (hp : Digits places)
    (hne : whole ≠ []) :
    Numeral.mantissa? (withPlaces whole places) = some ((whole, places), []) := by
  have hwhole : whole.isEmpty = false := by
    cases whole with
    | nil => exact absurd rfl hne
    | cons => rfl
  unfold withPlaces Numeral.mantissa?
  cases places with
  | nil => simp [spanDigits_digits hw, hwhole]
  | cons c cs =>
    have hdot : NoDigit ('.' :: c :: cs) := by simp [NoDigit]
    simp [spanDigits_append hw hdot, spanDigits_digits hp, hwhole]

theorem exists_cons_withPlaces {whole : List Char} (hw : Digits whole) (hne : whole ≠ [])
    (places : List Char) :
    ∃ c cs, c.isDigit = true ∧ withPlaces whole places = c :: cs := by
  cases whole with
  | nil => exact absurd rfl hne
  | cons c cs =>
    have hc := hw c List.mem_cons_self
    unfold withPlaces
    split
    · exact ⟨c, cs, hc, rfl⟩
    · exact ⟨c, cs ++ '.' :: places, hc, rfl⟩

theorem sign_signed {c : Char} (h : c.isDigit = true) (negative : Bool) (cs : List Char) :
    sign (signed negative (c :: cs)) = (negative, c :: cs) := by
  cases negative with
  | false => exact sign_of_isDigit h cs
  | true => rfl

/-- **A signed numeral without an exponent** is read as its value. -/
theorem readDouble?_withPlaces (negative : Bool) {whole places : List Char} (hw : Digits whole)
    (hp : Digits places) (hne : whole ≠ []) :
    readDouble? (String.ofList (signed negative (withPlaces whole places))) =
      some (Numeral.value ⟨negative, whole, places, 0⟩) := by
  have hm := mantissa?_withPlaces hw hp hne
  -- the numeral begins with a digit, so the sign in front is all that is taken off
  obtain ⟨c, cs, hc, heq⟩ := exists_cons_withPlaces hw hne places
  rw [heq] at hm
  have hscan : Numeral.scan? (signed negative (c :: cs)) =
      some (⟨negative, whole, places, 0⟩, []) := by
    unfold Numeral.scan?
    rw [sign_signed hc]
    simp [hm, Numeral.exponent?]
  unfold readDouble?
  rw [heq, String.toList_ofList, sign_signed hc]
  simp [special?_of_isDigit hc, hscan]

/-! ### Natural numbers -/

/-- What is read is no greater than what is asked for. -/
theorem le_of_readNatural? {s : String} {greatest n : ℕ} (h : readNatural? s greatest = some n) :
    n ≤ greatest := by
  unfold readNatural? at h
  split at h
  · cases h
  obtain ⟨k, hk, rfl⟩ := Option.map_eq_some_iff.1 h
  unfold readInteger? at hk
  dsimp only at hk
  split at hk
  · cases hk
  generalize (if (sign s.toList).1 = true then -(natural (sign s.toList).2 : ℤ)
    else natural (sign s.toList).2) = value at hk
  split at hk
  · rename_i hbounds
    rw [Option.some.inj hk, Bool.and_eq_true, decide_eq_true_eq, decide_eq_true_eq] at hbounds
    omega
  · cases hk

/-- **The digits of a number are read as that number.** -/
theorem readNatural?_toDigits {n greatest : ℕ} (h : n ≤ greatest) :
    readNatural? (String.ofList (Nat.toDigits 10 n)) greatest = some n := by
  obtain ⟨c, cs, hcons⟩ : ∃ c cs, Nat.toDigits 10 n = c :: cs :=
    List.exists_cons_of_ne_nil (List.length_pos_iff.1 Nat.length_toDigits_pos)
  have hdigits := digits_toDigits n
  have hvalue := natural_zeros_toDigits_zeros n 0 0
  rw [List.replicate_zero, List.nil_append, List.append_nil, pow_zero, mul_one] at hvalue
  rw [hcons] at hdigits hvalue ⊢
  have hc := hdigits c List.mem_cons_self
  have hhead : ¬ some c = some '-' := by
    intro hminus
    obtain rfl := Option.some.inj hminus
    exact absurd hc (by decide)
  have hall : (c :: cs).all Char.isDigit = true := List.all_eq_true.2 hdigits
  unfold readNatural? readInteger?
  rw [String.toList_ofList, List.head?_cons, if_neg hhead, sign_of_isDigit hc]
  simp [hall, hvalue, h]

/-! ### Rounding -/

/-- What is too small for any digit is zero, and what is too large is infinite. -/
theorem unpack_zero_literal : (0.0 : Float).toModel.unpack = .zero .positive := rfl

theorem unpack_infinity_literal : (1.0 / 0.0 : Float).toModel.unpack = .infinity .positive := rfl

theorem ten_zpow_le_least {e : ℤ} (h : e ≤ -330) : (10 : ℚ) ^ e ≤ 2 ^ (-1075 : ℤ) := by
  have hten : (2 : ℚ) ^ (33 : ℤ) ≤ 10 ^ (10 : ℤ) := by norm_num
  calc (10 : ℚ) ^ e ≤ 10 ^ (-330 : ℤ) := zpow_le_zpow_right₀ (by norm_num) h
    _ = ((10 ^ (10 : ℤ)) ^ (33 : ℤ))⁻¹ := by rw [← zpow_mul, ← zpow_neg]; rfl
    _ ≤ ((2 ^ (33 : ℤ)) ^ (33 : ℤ))⁻¹ :=
        inv_anti₀ (by positivity) (zpow_le_zpow_left₀ (by norm_num) (by positivity) hten)
    _ = 2 ^ (-1089 : ℤ) := by rw [← zpow_mul, ← zpow_neg]; rfl
    _ ≤ 2 ^ (-1075 : ℤ) := two_zpow_le (by norm_num)

theorem limit_le_ten_zpow {e : ℤ} (h : 310 ≤ e) : limit ≤ (10 : ℚ) ^ e := by
  have hten : (2 : ℚ) ^ (205 : ℤ) ≤ 10 ^ (62 : ℤ) := by norm_num
  calc limit = 2 ^ (1024 : ℤ) := limit_eq
    _ ≤ 2 ^ (1025 : ℤ) := two_zpow_le (by norm_num)
    _ = (2 ^ (205 : ℤ)) ^ (5 : ℤ) := by rw [← zpow_mul]; rfl
    _ ≤ (10 ^ (62 : ℤ)) ^ (5 : ℤ) := zpow_le_zpow_left₀ (by norm_num) (by positivity) hten
    _ = 10 ^ (310 : ℤ) := by rw [← zpow_mul]; rfl
    _ ≤ 10 ^ e := zpow_le_zpow_right₀ (by norm_num) h

/-- The size of a decimal from its digits. -/
theorem lt_ten_zpow (m : ℕ) (e : ℤ) :
    (m : ℚ) * 10 ^ e < 10 ^ ((Nat.toDigits 10 m).length + e) := by
  have hten : (0 : ℚ) < 10 ^ e := zpow_pos (by norm_num) e
  rw [zpow_add₀ (by norm_num), zpow_natCast]
  exact mul_lt_mul_of_pos_right (by exact_mod_cast lt_pow_digitCount m) hten

theorem ten_zpow_le {m : ℕ} (hm : 0 < m) (e : ℤ) :
    (10 : ℚ) ^ ((Nat.toDigits 10 m).length + e - 1) ≤ m * 10 ^ e := by
  have hten : (0 : ℚ) < 10 ^ e := zpow_pos (by norm_num) e
  have hlen : 0 < (Nat.toDigits 10 m).length := Nat.length_toDigits_pos
  rw [show (Nat.toDigits 10 m).length + e - 1 = ((Nat.toDigits 10 m).length - 1 : ℕ) + e by omega,
    zpow_add₀ (by norm_num), zpow_natCast]
  exact mul_le_mul_of_nonneg_right (by exact_mod_cast pow_digitCount_le hm) hten.le

/-- **The digits of a numeral are rounded once.** -/
theorem value?_scaled (m : ℕ) (e : ℤ) :
    value? (Numeral.scaled m e) = some (rounded (m * 10 ^ e)) := by
  have hten : (0 : ℚ) < 10 ^ e := zpow_pos (by norm_num) e
  unfold Numeral.scaled
  dsimp only
  split_ifs with hsmall hlarge
  · -- less than half of the least double
    have hnear : near (m * 10 ^ e) = 0 := by
      rcases Nat.eq_zero_or_pos m with rfl | hm
      · rw [Nat.cast_zero, zero_mul, near_zero]
      · rw [Bool.or_eq_true, decide_eq_true_eq, decide_eq_true_eq] at hsmall
        have hexp := hsmall.resolve_left hm.ne'
        refine near_of_abs_le ?_
        rw [abs_of_nonneg (mul_nonneg (Nat.cast_nonneg m) hten.le)]
        exact (lt_ten_zpow m e).le.trans (ten_zpow_le_least (by omega))
    rw [rounded, hnear, inRange_of_abs_lt (by rw [abs_zero]; exact limit_pos), value?,
      unpack_zero_literal]
    rfl
  · -- beyond the largest double
    have hm : 0 < m := by
      rcases Nat.eq_zero_or_pos m with rfl | hm
      · simp at hsmall
      · exact hm
    have hle := (limit_le_ten_zpow (by omega)).trans (ten_zpow_le hm e)
    rw [rounded_of_limit_le hle, value?, unpack_infinity_literal]
    rfl
  · rw [value?_ofScientific]
    congr 2
    by_cases he : e < 0
    · rw [if_pos (decide_eq_true he), div_eq_mul_inv, ← zpow_natCast, ← zpow_neg,
        show -(e.natAbs : ℤ) = e by omega]
    · rw [if_neg (by simpa using he), ← zpow_natCast, show (e.natAbs : ℤ) = e by omega]

/-- **The value of a numeral**: its digits, with the point, rounded once. -/
theorem value?_numeral (whole places : List Char) :
    value? (Numeral.value ⟨false, whole, places, 0⟩) =
      some (rounded (natural (whole ++ places) * 10 ^ (-(places.length : ℤ)))) := by
  have := value?_scaled (natural (whole ++ places)) (-(places.length : ℤ))
  unfold Numeral.value
  simpa using this

theorem numeral_negative (whole places : List Char) :
    Numeral.value ⟨true, whole, places, 0⟩ = -Numeral.value ⟨false, whole, places, 0⟩ := rfl

end Quadrature.Decimal

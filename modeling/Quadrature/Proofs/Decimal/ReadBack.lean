import Quadrature.Decimal.Layout
import Quadrature.Proofs.Decimal.Binary64
import Quadrature.Proofs.Decimal.Literal
import Quadrature.Proofs.Decimal.Shortest

/-!
# The text of a double reads back

`readDouble?_text`: **the plain text of every double is read as that double**, the sign of a zero,
the infinities and what is not a number included. The digits of the text are those of the shortest
decimal (`positionalText_eq`), which rounds to the double it was made from.

The texts are also words (`text_word`), and of all texts of one character only digits are read as a
number (`isDigit_of_readDouble?`), so that a text stands apart from what may be beside it.
-/

namespace Quadrature.Decimal

open Double Text
open Float.Model Float.Model.UnpackedFloat

/-! ### Digits with a point -/

/-- **The positional text** is the digits between zeros, cut before the places. -/
theorem positionalText_eq {digits : List Char} (hd : Digits digits) (scale : ℤ) :
    ∃ whole places, positionalText 0 digits scale = withPlaces whole places ∧
      whole ≠ [] ∧ Digits whole ∧ Digits places ∧ places.length = (-scale).toNat ∧
      ∃ a, whole ++ places =
        List.replicate a '0' ++ (digits ++ List.replicate scale.toNat '0') := by
  set places := (-scale).toNat with hplaces
  set whole := digits ++ zeros scale.toNat with hwhole
  set padded := zeros (places + 1 - whole.length) ++ whole with hpadded
  have hdigits : Digits padded := (digits_zeros _).append (hd.append (digits_zeros _))
  have hlen : places + 1 ≤ padded.length := by
    rw [hpadded, List.length_append, zeros, List.length_replicate]
    omega
  -- the text is cut before its last `places` digits
  refine ⟨padded.take (padded.length - places), padded.drop (padded.length - places), ?_, ?_, ?_,
    ?_, ?_, places + 1 - whole.length, ?_⟩
  · change withPlaces (padded.take (padded.length - places))
      (padded.drop (padded.length - places) ++ zeros (0 - _)) = _
    rw [Nat.zero_sub, zeros, List.replicate_zero, List.append_nil]
  · intro h
    have := congrArg List.length h
    rw [List.length_take, List.length_nil] at this
    omega
  · exact fun c hc => hdigits c (List.mem_of_mem_take hc)
  · exact fun c hc => hdigits c (List.mem_of_mem_drop hc)
  · rw [List.length_drop]
    omega
  · rw [List.take_append_drop, hpadded, hwhole, zeros, zeros]

/-- A magnitude without a point is the integer that its digits write, shifted by the places. -/
theorem value?_positional (n : ℕ) (scale : ℤ) :
    ∃ whole places, positionalText 0 (Nat.toDigits 10 n) scale = withPlaces whole places ∧
      whole ≠ [] ∧ Digits whole ∧ Digits places ∧
      value? (Numeral.value ⟨false, whole, places, 0⟩) =
        some (rounded (n * 10 ^ scale)) := by
  obtain ⟨whole, places, htext, hne, hw, hp, hlen, a, hcut⟩ :=
    positionalText_eq (digits_toDigits n) scale
  refine ⟨whole, places, htext, hne, hw, hp, ?_⟩
  have hshift : ((n * 10 ^ scale.toNat : ℕ) : ℚ) * 10 ^ (-((-scale).toNat : ℤ)) = n * 10 ^ scale := by
    rw [Nat.cast_mul, Nat.cast_pow, Nat.cast_ofNat, mul_assoc, ← zpow_natCast,
      ← zpow_add₀ (by norm_num)]
    congr 2
    omega
  rw [value?_numeral, hcut, natural_zeros_toDigits_zeros, hlen, hshift]

/-! ### Doubles -/

theorem text_plain (x : Float) : Layout.plain.text x =
    String.ofList ((Binary64.of x).text fun v =>
      positionalText 0 (Nat.toDigits 10 v.decimal.digits) v.decimal.scale) := rfl

/-- A magnitude reads back, under either sign. -/
theorem readDouble?_magnitude {x : Float} {s : Sign} {m : ℕ} {e : ℤ} {hm : 0 < m}
    (h : x.toModel.unpack = .finite s m e hm) : readDouble? (Layout.plain.text x) = some x := by
  have hr := regular_unpack_model x
  rw [h] at hr
  obtain ⟨hc, hlim⟩ := hr.number?_signed
  have hdecimal : (⟨m, e⟩ : Magnitude).decimal = (⟨m, e⟩ : Magnitude).shortest := if_neg hm.ne'
  obtain ⟨whole, places, htext, hne, hw, hp, hv⟩ :=
    value?_positional (⟨m, e⟩ : Magnitude).shortest.digits (⟨m, e⟩ : Magnitude).shortest.scale
  -- the numeral without its sign is the magnitude
  have hmag : rounded ((⟨m, e⟩ : Magnitude).shortest.digits *
      10 ^ (⟨m, e⟩ : Magnitude).shortest.scale) = ((m * 2 ^ e : ℚ) : Number) := by
    have hnear := near_shortest hm hc
    unfold Scaled.value at hnear
    rw [rounded, hnear, inRange_of_abs_lt]
    cases s with
    | negative => rwa [Double.signed, abs_neg] at hlim
    | positive => exact hlim
  rw [hmag] at hv
  have hu := unpack_of_value? hm hc hv
  rw [text_plain, of_eq_parts, h]
  change readDouble? (String.ofList (signed (isNegative s) (positionalText 0
    (Nat.toDigits 10 (⟨m, e⟩ : Magnitude).decimal.digits) (⟨m, e⟩ : Magnitude).decimal.scale))) = _
  rw [hdecimal, htext, readDouble?_withPlaces _ hw hp hne]
  congr 1
  refine float_ext ?_
  cases s with
  | negative => rw [isNegative, numeral_negative, unpack_neg, hu, h]; rfl
  | positive => rw [isNegative, hu, h]

/-- **The text of a double reads back.** -/
theorem readDouble?_text (x : Float) : readDouble? (Layout.plain.text x) = some x := by
  cases h : x.toModel.unpack with
  | notANumber =>
    obtain rfl : x = 0.0 / 0.0 := float_ext h
    decide +kernel
  | infinity s =>
    cases s with
    | negative =>
      obtain rfl : x = -(1.0 / 0.0) := float_ext h
      decide +kernel
    | positive =>
      obtain rfl : x = 1.0 / 0.0 := float_ext h
      decide +kernel
  | zero s =>
    cases s with
    | negative =>
      obtain rfl : x = -0.0 := float_ext h
      decide +kernel
    | positive =>
      obtain rfl : x = 0.0 := float_ext h
      decide +kernel
  | finite s m e hm => exact readDouble?_magnitude h

/-! ### Beside other texts -/

theorem not_blank_of_isDigit {c : Char} (h : c.isDigit = true) : isBlank c = false := by
  simp only [Char.isDigit, Bool.and_eq_true, decide_eq_true_eq, ge_iff_le, UInt32.le_iff_toNat_le]
    at h
  have hlow : 48 ≤ c.toNat := h.1
  have hhigh : c.toNat ≤ 57 := h.2
  simp [isBlank]
  omega

/-- A blank is no letter. -/
theorem toLower_of_isBlank {c : Char} (h : isBlank c = true) : c.toLower = c := by
  have hletter : ¬ (c.val ≥ 'A'.val ∧ c.val ≤ 'Z'.val) := by
    rintro ⟨hA, hZ⟩
    have hlow : 65 ≤ c.toNat := UInt32.le_iff_toNat_le.1 hA
    have hhigh : c.toNat ≤ 90 := UInt32.le_iff_toNat_le.1 hZ
    simp [isBlank] at h
    omega
  unfold Char.toLower
  rw [dif_neg hletter]

/-- The characters of a signed numeral without an exponent. -/
theorem mem_signed_withPlaces {negative : Bool} {whole places : List Char} (hw : Digits whole)
    (hp : Digits places) {c : Char} (hc : c ∈ signed negative (withPlaces whole places)) :
    c.isDigit = true ∨ c ∈ ['-', '.'] := by
  have hplaces : ∀ d ∈ withPlaces whole places, d.isDigit = true ∨ d ∈ ['-', '.'] := by
    intro d hd
    unfold withPlaces at hd
    split at hd
    · exact .inl (hw d hd)
    · rcases List.mem_append.1 hd with hd | hd
      · exact .inl (hw d hd)
      · rcases List.mem_cons.1 hd with rfl | hd
        · exact .inr (by decide)
        · exact .inl (hp d hd)
  cases negative with
  | false => exact hplaces c hc
  | true =>
    rcases List.mem_cons.1 hc with rfl | hc
    · exact .inr (by decide)
    · exact hplaces c hc

/-- **The form of the text of a double**: a signed numeral without an exponent, or one of three
words. -/
theorem text_form (x : Float) :
    (∃ negative whole places, Digits whole ∧ Digits places ∧ whole ≠ [] ∧
      (Layout.plain.text x).toList = signed negative (withPlaces whole places)) ∨
    (Layout.plain.text x).toList ∈ ["NaN".toList, "inf".toList, "-inf".toList] := by
  rw [text_plain, String.toList_ofList]
  cases Binary64.of x with
  | nan => exact .inr (by decide)
  | infinite negative => cases negative <;> exact .inr (by decide)
  | finite negative v =>
    obtain ⟨whole, places, htext, hne, hw, hp, -⟩ :=
      positionalText_eq (digits_toDigits v.decimal.digits) v.decimal.scale
    exact .inl ⟨negative, whole, places, hw, hp, hne, congrArg (signed negative) htext⟩

/-- **The text of a double is one word.** -/
theorem text_word (x : Float) : (Layout.plain.text x).toList ≠ [] ∧
    ∀ c ∈ (Layout.plain.text x).toList, isBlank c = false := by
  rcases text_form x with ⟨negative, whole, places, hw, hp, hne, htext⟩ | hword
  · rw [htext]
    constructor
    · obtain ⟨c, cs, -, heq⟩ := exists_cons_withPlaces hw hne places
      cases negative <;> simp [signed, heq]
    · intro c hc
      have hmarks : ∀ d ∈ ['-', '.'], isBlank d = false := by simp [isBlank]
      rcases mem_signed_withPlaces hw hp hc with hdigit | hmark
      · exact not_blank_of_isDigit hdigit
      · exact hmarks c hmark
  · have hwords : ∀ w ∈ ["NaN".toList, "inf".toList, "-inf".toList],
        w ≠ [] ∧ ∀ c ∈ w, isBlank c = false := by simp [isBlank]
    exact hwords _ hword

/-- One character is none of the words for values that are not finite. -/
theorem special?_singleton (c : Char) : special? [c] = none := by
  simp [special?, specials, lowerAscii]

/-- A sign alone, or another character that is no digit, begins no numeral. -/
theorem mantissa?_of_not_isDigit {c : Char} (h : c.isDigit = false) :
    Numeral.mantissa? [c] = none := by
  have hnil : Digits [] := by
    intro d hd
    cases hd
  have hspan : spanDigits ([] ++ [c]) = ([], [c]) := by
    refine spanDigits_append hnil ?_
    simp [NoDigit, h]
  rw [List.nil_append] at hspan
  unfold Numeral.mantissa?
  rw [hspan]
  dsimp only
  split
  · rename_i heq
    rw [(List.cons.inj heq).2.symm]
    rfl
  · rfl

/-- **A number of one character is a digit.** -/
theorem isDigit_of_readDouble? {c : Char} {x : Float}
    (h : readDouble? (String.singleton c) = some x) : c.isDigit = true := by
  by_contra hc
  rw [Bool.not_eq_true] at hc
  unfold readDouble? Numeral.scan? at h
  rw [String.toList_singleton] at h
  -- the sign is taken off first, and nothing is left after it
  by_cases hminus : c = '-'
  · subst hminus
    cases h
  by_cases hplus : c = '+'
  · subst hplus
    cases h
  rw [sign_of_ne hminus hplus] at h
  simp [special?_singleton, mantissa?_of_not_isDigit hc] at h

end Quadrature.Decimal

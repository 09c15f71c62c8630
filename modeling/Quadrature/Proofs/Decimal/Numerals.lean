import Quadrature.Proofs.Decimal.Literal
import Quadrature.Proofs.Text.Runs

/-!
# The grammar of numerals

A numeral is an optional sign, a mantissa and an optional exponent. The grammar is stated without
the rules that read it, as relations between a text and what it writes.

* `SignText`, `MantissaText`, `ExponentText`, `NumeralText`: the grammar.
* `scan?_append`, `exists_of_scan?`: **what is read at the front of a text is a numeral**, and a
  numeral that does not go on is read whole.
* `readDouble?_numeralText`: the value of a numeral is that of its text.
-/

namespace Quadrature.Decimal

open Text

/-- An optional sign, true for a minus. -/
inductive SignText : List Char → Bool → Prop
  | none : SignText [] false
  | plus : SignText ['+'] false
  | minus : SignText ['-'] true

/-- Digits, or digits around a point with at least one of them. -/
inductive MantissaText : List Char → List Char × List Char → Prop
  | whole {ds : List Char} (hd : Digits ds) (hne : ds ≠ []) : MantissaText ds (ds, [])
  | point {ds fs : List Char} (hd : Digits ds) (hf : Digits fs) (hne : ds ≠ [] ∨ fs ≠ []) :
    MantissaText (ds ++ '.' :: fs) (ds, fs)

/-- Nothing, or a mark with an optional sign and digits. -/
inductive ExponentText : List Char → ℤ → Prop
  | none : ExponentText [] 0
  | mark {c : Char} {s ds : List Char} {negative : Bool} (hc : c = 'e' ∨ c = 'E')
    (hs : SignText s negative) (hd : Digits ds) (hne : ds ≠ []) :
    ExponentText (c :: (s ++ ds)) (if negative then -(natural ds : ℤ) else natural ds)

/-- **A numeral as it is written.** -/
inductive NumeralText : List Char → Numeral → Prop
  | intro {s m e whole fraction : List Char} {negative : Bool} {exponent : ℤ}
    (hs : SignText s negative) (hm : MantissaText m (whole, fraction))
    (he : ExponentText e exponent) :
    NumeralText (s ++ (m ++ e)) ⟨negative, whole, fraction, exponent⟩

/-- A text that does not go on with a numeral. -/
def EndsNumeral (cs : List Char) : Prop :=
  ∀ c ∈ cs.head?, c.isDigit = false ∧ c ≠ '.' ∧ c ≠ 'e' ∧ c ≠ 'E'

variable {cs rest : List Char}

theorem endsNumeral_nil : EndsNumeral [] := by
  intro c hc
  cases hc

theorem EndsNumeral.noDigit (h : EndsNumeral rest) : NoDigit rest := by
  intro c hc
  exact (h c hc).1

/-! ### Digits and signs -/

theorem exists_of_spanDigits {ds : List Char} (h : spanDigits cs = (ds, rest)) :
    Digits ds ∧ cs = ds ++ rest := by
  obtain ⟨heq, hrun⟩ := span_eq_iff.1 h
  exact ⟨hrun.all, heq⟩

theorem exists_of_sign {negative : Bool} (h : sign cs = (negative, rest)) :
    ∃ s, SignText s negative ∧ cs = s ++ rest := by
  unfold sign at h
  split at h
  · cases h
    exact ⟨['-'], .minus, rfl⟩
  · cases h
    exact ⟨['+'], .plus, rfl⟩
  · cases h
    exact ⟨[], .none, rfl⟩

/-- A sign is taken off, and no more than one. -/
theorem sign_append {s : List Char} {negative : Bool} (h : SignText s negative) {c : Char}
    (hminus : c ≠ '-') (hplus : c ≠ '+') :
    sign (s ++ c :: cs) = (negative, c :: cs) := by
  cases h with
  | none => exact sign_of_ne hminus hplus cs
  | plus | minus => rfl

/-! ### Mantissas -/

theorem MantissaText.exists_cons {m : List Char} {p : List Char × List Char}
    (h : MantissaText m p) : ∃ c ds, m = c :: ds ∧ (c.isDigit = true ∨ c = '.') := by
  cases h with
  | whole hd hne =>
    obtain ⟨c, ds, rfl⟩ := List.exists_cons_of_ne_nil hne
    exact ⟨c, ds, rfl, .inl (hd c List.mem_cons_self)⟩
  | @point ds fs hd hf hne =>
    cases ds with
    | nil => exact ⟨'.', fs, rfl, .inr rfl⟩
    | cons c ds => exact ⟨c, ds ++ '.' :: fs, rfl, .inl (hd c List.mem_cons_self)⟩

theorem exists_of_mantissa? {p : List Char × List Char}
    (h : Numeral.mantissa? cs = some (p, rest)) : ∃ m, MantissaText m p ∧ cs = m ++ rest := by
  unfold Numeral.mantissa? at h
  obtain ⟨⟨ds, after⟩, hspan⟩ : ∃ q, spanDigits cs = q := ⟨_, rfl⟩
  obtain ⟨hd, rfl⟩ := exists_of_spanDigits hspan
  simp only [hspan] at h
  split at h
  · rename_i behind
    obtain ⟨⟨fs, last⟩, hspan'⟩ : ∃ q, spanDigits behind = q := ⟨_, rfl⟩
    obtain ⟨hf, rfl⟩ := exists_of_spanDigits hspan'
    simp only [hspan'] at h
    split at h
    · cases h
    rename_i hne
    cases h
    refine ⟨ds ++ '.' :: fs, .point hd hf ?_, by simp⟩
    by_contra hnone
    rw [not_or, not_not, not_not] at hnone
    exact hne (by simp [hnone.1, hnone.2])
  · split at h
    · cases h
    rename_i hne
    cases h
    exact ⟨ds, .whole hd fun hnil => hne (List.isEmpty_iff.2 hnil), rfl⟩

theorem mantissa?_append {m : List Char} {p : List Char × List Char} (h : MantissaText m p)
    (hr : ∀ c ∈ rest.head?, c.isDigit = false ∧ c ≠ '.') :
    Numeral.mantissa? (m ++ rest) = some (p, rest) := by
  have hdigit : NoDigit rest := fun c hc => (hr c hc).1
  unfold Numeral.mantissa?
  cases h with
  | whole hd hne =>
    rw [spanDigits_append hd hdigit]
    -- what follows is no point, so the digits are all there is
    cases rest with
    | nil => simp [hne]
    | cons c rest =>
      have hc := (hr c rfl).2
      dsimp only
      split
      · rename_i heq
        exact absurd (List.cons.inj heq).1 hc
      · simp [hne]
  | @point ds fs hd hf hne =>
    have hpoint : NoDigit ('.' :: (fs ++ rest)) := by simp [NoDigit]
    rw [List.append_assoc, List.cons_append, spanDigits_append hd hpoint]
    simp only [spanDigits_append hf hdigit]
    rw [if_neg]
    rw [Bool.and_eq_true, List.isEmpty_iff, List.isEmpty_iff]
    rintro ⟨hds, hfs⟩
    exact hne.elim (fun h => h hds) fun h => h hfs

/-- What begins with neither a digit nor a point is no mantissa. -/
theorem mantissa?_eq_none {c : Char} (hc : c.isDigit = false) (hpoint : c ≠ '.') :
    Numeral.mantissa? (c :: cs) = none := by
  by_contra h
  obtain ⟨⟨p, rest⟩, hsome⟩ := Option.ne_none_iff_exists'.1 h
  obtain ⟨m, hm, heq⟩ := exists_of_mantissa? hsome
  obtain ⟨d, ds, rfl, hd⟩ := hm.exists_cons
  obtain rfl := (List.cons.inj heq).1
  rcases hd with hd | hd
  · rw [hc] at hd
    cases hd
  · exact hpoint hd

/-! ### Exponents -/

theorem exists_of_exponent? {exponent : ℤ} (h : Numeral.exponent? cs = some (exponent, rest)) :
    ∃ e, ExponentText e exponent ∧ cs = e ++ rest := by
  unfold Numeral.exponent? at h
  split at h
  · rename_i c after
    split at h
    · rename_i hc
      obtain ⟨⟨negative, behind⟩, hsign⟩ : ∃ q, sign after = q := ⟨_, rfl⟩
      obtain ⟨s, hs, rfl⟩ := exists_of_sign hsign
      obtain ⟨⟨ds, last⟩, hspan⟩ : ∃ q, spanDigits behind = q := ⟨_, rfl⟩
      obtain ⟨hd, rfl⟩ := exists_of_spanDigits hspan
      simp only [hsign, hspan] at h
      split at h
      · cases h
      rename_i hne
      cases h
      rw [Bool.or_eq_true, beq_iff_eq, beq_iff_eq] at hc
      exact ⟨c :: (s ++ ds), .mark hc hs hd fun hnil => hne (List.isEmpty_iff.2 hnil), by simp⟩
    · cases h
      exact ⟨[], .none, rfl⟩
  · cases h
    exact ⟨[], .none, rfl⟩

theorem exponent?_append {e : List Char} {exponent : ℤ} (h : ExponentText e exponent)
    (hr : EndsNumeral rest) : Numeral.exponent? (e ++ rest) = some (exponent, rest) := by
  cases h with
  | none =>
    cases rest with
    | nil => rfl
    | cons c rest =>
      obtain ⟨-, -, he, hE⟩ := hr c rfl
      simp [Numeral.exponent?, he, hE]
  | @mark c s ds negative hc hs hd hne =>
    have hmark : (c == 'e' || c == 'E') = true := by
      rw [Bool.or_eq_true, beq_iff_eq, beq_iff_eq]
      exact hc
    -- the digits begin with no sign
    obtain ⟨d, ds', hds⟩ := List.exists_cons_of_ne_nil hne
    have hfirst : d.isDigit = true := hd d (hds ▸ List.mem_cons_self)
    have hsign : sign (s ++ (ds ++ rest)) = (negative, ds ++ rest) := by
      rw [hds, List.cons_append]
      refine sign_append hs ?_ ?_
      · rintro rfl
        revert hfirst
        decide
      · rintro rfl
        revert hfirst
        decide
    have hspan := spanDigits_append hd hr.noDigit
    have hempty : ds.isEmpty = false := by rw [hds]; rfl
    rw [List.cons_append, List.append_assoc, Numeral.exponent?, if_pos hmark]
    simp only [hsign, hspan, hempty]
    rfl

/-! ### Numerals -/

/-- A numeral begins with a sign, a digit or a point. -/
theorem NumeralText.exists_cons {w : List Char} {n : Numeral} (h : NumeralText w n) :
    ∃ c ds, w = c :: ds ∧ (c = '-' ∨ c = '+' ∨ c.isDigit = true ∨ c = '.') := by
  cases h with
  | @intro s m e whole fraction negative exponent hs hm he =>
    obtain ⟨c, ds, rfl, hc⟩ := hm.exists_cons
    cases hs with
    | none => exact ⟨c, ds ++ e, rfl, .inr (.inr hc)⟩
    | plus => exact ⟨'+', c :: (ds ++ e), rfl, .inr (.inl rfl)⟩
    | minus => exact ⟨'-', c :: (ds ++ e), rfl, .inl rfl⟩

/-- **What is read at the front of a text is a numeral.** -/
theorem exists_of_scan? {n : Numeral} (h : Numeral.scan? cs = some (n, rest)) :
    ∃ w, NumeralText w n ∧ cs = w ++ rest := by
  unfold Numeral.scan? at h
  obtain ⟨⟨negative, after⟩, hsign⟩ : ∃ q, sign cs = q := ⟨_, rfl⟩
  obtain ⟨s, hs, rfl⟩ := exists_of_sign hsign
  simp only [hsign] at h
  obtain ⟨⟨⟨whole, fraction⟩, behind⟩, hmantissa, hbehind⟩ := Option.bind_eq_some_iff.1 h
  obtain ⟨m, hm, rfl⟩ := exists_of_mantissa? hmantissa
  obtain ⟨⟨exponent, last⟩, hexponent, hlast⟩ := Option.bind_eq_some_iff.1 hbehind
  obtain ⟨e, he, rfl⟩ := exists_of_exponent? hexponent
  cases hlast
  exact ⟨s ++ (m ++ e), .intro hs hm he, by simp⟩

/-- A digit or a point is no sign. -/
theorem ne_sign {c : Char} (h : c.isDigit = true ∨ c = '.') : c ≠ '-' ∧ c ≠ '+' := by
  constructor <;> rintro rfl <;> revert h <;> decide

/-- **A numeral that does not go on is read whole.** -/
theorem scan?_append {w : List Char} {n : Numeral} (h : NumeralText w n)
    (hr : EndsNumeral rest) : Numeral.scan? (w ++ rest) = some (n, rest) := by
  cases h with
  | @intro s m e whole fraction negative exponent hs hm he =>
    have hexponent := exponent?_append he hr
    have hmantissa : Numeral.mantissa? (m ++ (e ++ rest)) = some ((whole, fraction), e ++ rest) := by
      refine mantissa?_append hm ?_
      intro c hc
      cases he with
      | none =>
        obtain ⟨hdigit, hpoint, -⟩ := hr c hc
        exact ⟨hdigit, hpoint⟩
      | mark hmark hs' hd hne =>
        cases hc
        rcases hmark with rfl | rfl <;> decide
    obtain ⟨c, ds, hcons, hc⟩ := hm.exists_cons
    obtain ⟨hminus, hplus⟩ := ne_sign hc
    have hsign : sign (s ++ (m ++ (e ++ rest))) = (negative, m ++ (e ++ rest)) := by
      rw [hcons, List.cons_append]
      exact sign_append hs hminus hplus
    rw [List.append_assoc, List.append_assoc, Numeral.scan?, hsign]
    simp only [hmantissa, hexponent, Option.bind_eq_bind, Option.bind_some]
    rfl

/-! ### Characters -/

/-- A character that stands in numerals. -/
def IsNumeralChar (c : Char) : Prop := c.isDigit = true ∨ c ∈ ['+', '-', '.', 'e', 'E']

theorem SignText.isNumeralChar {s : List Char} {negative : Bool} (h : SignText s negative) :
    ∀ c ∈ s, IsNumeralChar c := by
  cases h <;> simp [IsNumeralChar]

theorem MantissaText.isNumeralChar {m : List Char} {p : List Char × List Char}
    (h : MantissaText m p) : ∀ c ∈ m, IsNumeralChar c := by
  intro c hc
  cases h with
  | whole hd hne => exact .inl (hd c hc)
  | point hd hf hne =>
    simp only [List.mem_append, List.mem_cons] at hc
    rcases hc with hc | rfl | hc
    · exact .inl (hd c hc)
    · exact .inr (by decide)
    · exact .inl (hf c hc)

theorem ExponentText.isNumeralChar {e : List Char} {exponent : ℤ} (h : ExponentText e exponent) :
    ∀ c ∈ e, IsNumeralChar c := by
  intro c hc
  cases h with
  | none => cases hc
  | mark hmark hs hd hne =>
    simp only [List.mem_cons, List.mem_append] at hc
    rcases hc with rfl | hc | hc
    · rcases hmark with rfl | rfl <;> exact .inr (by decide)
    · exact hs.isNumeralChar c hc
    · exact .inl (hd c hc)

theorem NumeralText.isNumeralChar {w : List Char} {n : Numeral} (h : NumeralText w n) :
    ∀ c ∈ w, IsNumeralChar c := by
  intro c hc
  cases h with
  | intro hs hm he =>
    simp only [List.mem_append] at hc
    rcases hc with hc | hc | hc
    · exact hs.isNumeralChar c hc
    · exact hm.isNumeralChar c hc
    · exact he.isNumeralChar c hc

/-! ### Values -/

/-- A point begins none of the words for values that are not finite. -/
theorem special?_point (cs : List Char) : special? ('.' :: cs) = none := by
  have hpoint : Char.toLower '.' = '.' := by decide
  simp [special?, specials, lowerAscii, hpoint]

/-- **The value of a numeral is that of its text.** -/
theorem readDouble?_numeralText {w : List Char} {n : Numeral} (h : NumeralText w n) :
    readDouble? (String.ofList w) = some n.value := by
  have hscan := scan?_append h endsNumeral_nil
  rw [List.append_nil] at hscan
  cases h with
  | @intro s m e whole fraction negative exponent hs hm he =>
    obtain ⟨c, ds, rfl, hc⟩ := hm.exists_cons
    obtain ⟨hminus, hplus⟩ := ne_sign hc
    have hsign : sign (s ++ (c :: ds ++ e)) = (negative, c :: (ds ++ e)) :=
      sign_append hs hminus hplus
    have hspecial : special? (c :: (ds ++ e)) = none := by
      rcases hc with hc | rfl
      · exact special?_of_isDigit hc _
      · exact special?_point _
    unfold readDouble?
    rw [String.toList_ofList, hsign]
    simp only [hspecial, hscan]

end Quadrature.Decimal

import Quadrature.Proofs.Decimal.ReadBack
import Quadrature.Proofs.Interval.Grammar
import Quadrature.Proofs.Journal.Pairs

/-!
# Interval lines for bounds as they are typed

The line for two typed bounds is read back as these two bounds or as none. What can be read as a
bound has neither a blank nor a mark in it; so the marks that a line is read by are those that were
put around the bounds, and whatever is typed stays on its side of them.

* `BoundText.isPlain`: **a bound has neither a blank nor a mark in it.**
* `trim_eq_of_line`: **a line falls apart in one way only.**
* `undefinedText_line_iff`, `boundsText_line_iff`: which forms the line has, by what was typed.
* `read_line`: **what is read of the line for any two texts.**
-/

namespace Quadrature.Interval

open Text Decimal Double

variable {w g g' u u' : List Char} {x y : Float} {start stop : String}

/-! ### The characters of a bound -/

/-- A text without the marks of a line. -/
structure NoMark (u : List Char) : Prop where
  opening : '[' ∉ u
  separator : ';' ∉ u
  closing : ']' ∉ u

/-- A text without blanks and marks. -/
structure IsPlain (w : List Char) : Prop where
  notBlank : ∀ c ∈ w, isBlank c = false
  noMark : NoMark w

theorem NoMark.append (hu : NoMark u) (hu' : NoMark u') : NoMark (u ++ u') where
  opening := List.not_mem_append hu.opening hu'.opening
  separator := List.not_mem_append hu.separator hu'.separator
  closing := List.not_mem_append hu.closing hu'.closing

theorem Gaps.isBlank (h : Gaps g) : ∀ c ∈ g, Text.isBlank c = true := fun c hc =>
  isBlank_of_isGap (h c hc)

theorem Gaps.noMark (h : Gaps g) : NoMark g where
  opening hc := absurd (h _ hc) (by decide)
  separator hc := absurd (h _ hc) (by decide)
  closing hc := absurd (h _ hc) (by decide)

theorem gaps_nil : Gaps [] := by
  intro c hc
  cases hc

theorem gaps_space : Gaps [' '] := by
  unfold Gaps
  rw [List.forall_mem_singleton]
  rfl

theorem isPlain_of_numeralText {n : Numeral} (h : NumeralText w n) : IsPlain w where
  notBlank c hc := by
    have hsigns : ∀ c ∈ ['+', '-', '.', 'e', 'E'], isBlank c = false := by simp [isBlank]
    rcases h.isNumeralChar c hc with hdigit | hc
    · exact not_blank_of_isDigit hdigit
    · exact hsigns c hc
  noMark := by
    have hmark : ∀ c ∈ ['[', ';', ']'], ¬ IsNumeralChar c := by simp [IsNumeralChar]
    constructor <;> exact fun hc => hmark _ (by decide) (h.isNumeralChar _ hc)

theorem isPlain_of_isWord (h : IsWord w) : IsPlain w := by
  have hwords : ∀ s ∈ ["nan".toList, "infinity".toList, "inf".toList], ∀ c ∈ s,
      c ∈ ['n', 'a', 'i', 'f', 't', 'y'] := by simp
  have hlower : ∀ c ∈ w, c.toLower ∈ ['n', 'a', 'i', 'f', 't', 'y'] := fun c hc =>
    hwords _ h _ (List.mem_map_of_mem hc)
  constructor
  · intro c hc
    have hletters : ∀ c ∈ ['n', 'a', 'i', 'f', 't', 'y'], isBlank c = false := by
      simp [isBlank]
    have hc := hletters _ (hlower c hc)
    rw [← Bool.not_eq_true] at hc ⊢
    intro hblank
    rw [toLower_of_isBlank hblank] at hc
    exact hc hblank
  · constructor <;> exact fun hc => absurd (hlower _ hc) (by decide)

/-- **A bound has neither a blank nor a mark in it.** -/
theorem BoundText.isPlain (h : BoundText w x) : IsPlain w := by
  rcases h.form with ⟨n, hn⟩ | hword
  · exact isPlain_of_numeralText hn
  · exact isPlain_of_isWord hword

/-- A bound with gaps around it is found by trimming. -/
theorem IsPlain.trim_eq (h : IsPlain w) (hg : Gaps g) (hg' : Gaps g') :
    trim (g ++ (w ++ g')) = w := by
  have htrimmed : IsTrimmed w :=
    ⟨fun c hc => h.notBlank c (List.mem_of_mem_head? hc),
      fun c hc => h.notBlank c (List.mem_of_getLast? hc)⟩
  rw [trim_blanks_append hg.isBlank, trim_append_blanks hg'.isBlank, htrimmed.trim_eq]

/-! ### The line -/

/-- **A line falls apart in one way only.** Whatever was typed, what is found between the marks of the
line is that, but for blanks around it. -/
theorem trim_eq_of_line (hg : Gaps g) (hu : NoMark u) (hu' : NoMark u') (hg' : Gaps g')
    (h : (line start stop).toList = g ++ '[' :: (u ++ ';' :: (u' ++ ']' :: g'))) :
    trim start.toList = trim u ∧ trim stop.toList = trim u' := by
  have hopening : '[' ∉ u ++ ';' :: (u' ++ ']' :: g') := by
    simp [hu.opening, hu'.opening, hg'.noMark.opening]
  have hseparator : ';' ∉ u' ++ ']' :: g' := by
    simp [hu'.separator, hg'.noMark.separator]
  have hline : (line start stop).toList = [] ++ '[' ::
      (trim start.toList ++ [' '] ++ ';' :: ([' '] ++ trim stop.toList ++ ']' :: [])) := by
    rw [toList_line]
    simp
  rw [hline] at h
  -- each mark stands once on the side that was read, so it is the one that was put there
  obtain ⟨-, -, h⟩ := (List.append_cons_inj_of_notMem hg.noMark.opening hopening).1 h.symm
  obtain ⟨rfl, -, h⟩ := (List.append_cons_inj_of_notMem hu.separator hseparator).1 h
  obtain ⟨rfl, -, -⟩ := (List.append_cons_inj_of_notMem hu'.closing hg'.noMark.closing).1 h
  rw [trim_append_blanks gaps_space.isBlank, trim_blanks_append gaps_space.isBlank, (isTrimmed_trim _).trim_eq,
    (isTrimmed_trim _).trim_eq]
  exact ⟨rfl, rfl⟩

/-- **The line has no bounds** where nothing was typed. -/
theorem undefinedText_line_iff : UndefinedText (line start stop).toList ↔
    blank start.toList = true ∧ blank stop.toList = true := by
  rw [← trim_eq_nil_iff, ← trim_eq_nil_iff]
  constructor
  · intro h
    generalize hcs : (line start stop).toList = cs at h
    obtain ⟨h₁, h₂, h₃, h₄⟩ := h
    obtain ⟨hstart, hstop⟩ := trim_eq_of_line h₁ h₂.noMark h₃.noMark h₄ hcs
    rw [hstart, hstop, trim_eq_nil_iff, trim_eq_nil_iff, blank_iff, blank_iff]
    exact ⟨h₂.isBlank, h₃.isBlank⟩
  · rintro ⟨hstart, hstop⟩
    rw [toList_line, hstart, hstop]
    exact .intro gaps_nil gaps_space gaps_space gaps_nil

/-- **The line has the bounds** that were typed. -/
theorem boundsText_line_iff : BoundsText (line start stop).toList x y ↔
    BoundText (trim start.toList) x ∧ BoundText (trim stop.toList) y := by
  constructor
  · intro h
    generalize hcs : (line start stop).toList = cs at h
    obtain ⟨h₁, h₂, hv, h₃, h₄, hw, h₅, h₆⟩ := h
    have hleft := h₂.noMark.append (hv.isPlain.noMark.append h₃.noMark)
    have hright := h₄.noMark.append (hw.isPlain.noMark.append h₅.noMark)
    obtain ⟨hstart, hstop⟩ : trim start.toList = _ ∧ trim stop.toList = _ :=
      trim_eq_of_line h₁ hleft hright h₆ (by simp [hcs])
    rw [hstart, hstop, hv.isPlain.trim_eq h₂ h₃, hw.isPlain.trim_eq h₄ h₅]
    exact ⟨hv, hw⟩
  · rintro ⟨hstart, hstop⟩
    have h := BoundsText.intro gaps_nil gaps_nil hstart gaps_space gaps_space hstop gaps_nil gaps_nil
    rw [toList_line]
    simpa using h

/-! ### What is read -/

/-- A numeral with a finite value, which is that of its text as a double. -/
structure FiniteText (w : List Char) (x : Float) (a : ℚ) : Prop where
  form : ∃ n, NumeralText w n
  read : readDouble? (String.ofList w) = some x
  value : value? x = some (a : Number)

/-- A word is not finite. -/
theorem IsWord.isFinite_eq (h : IsWord w) (hx : Decimal.readDouble? (String.ofList w) = some x) :
    x.isFinite = false := by
  have hspecials : ∀ s ∈ specials, s.2.isFinite = false := by decide +kernel
  have hends : EndsBound [] := by
    intro c hc
    cases hc
  obtain ⟨y, hy, -⟩ := word?_append h hends
  obtain rfl : y = x := Option.some_inj.1 ((h.readDouble? hy).symm.trans hx)
  obtain ⟨s, hs, rfl⟩ := Option.map_eq_some_iff.1 hy
  exact hspecials s (List.mem_of_find?_eq_some hs)

/-- A bound is finite exactly if it is a numeral within the range of doubles. -/
theorem finiteText_iff {a : ℚ} :
    FiniteText w x a ↔ BoundText w x ∧ value? x = some (a : Number) := by
  constructor
  · intro h
    exact ⟨⟨.inl h.form, h.read⟩, h.value⟩
  · rintro ⟨h, hvalue⟩
    rcases h.form with hn | hword
    · exact ⟨hn, h.value, hvalue⟩
    · have hfinite := hword.isFinite_eq h.value
      rw [isFinite_iff.2 ⟨a, hvalue⟩] at hfinite
      cases hfinite

theorem read_of_undefinedText {text : String} (h : UndefinedText text.toList) :
    read text = .error .undefinedInterval := by
  unfold read
  rw [if_pos (isUndefined_iff.2 h)]

/-- Two numerals that are typed within the range of doubles. -/
theorem read_line_of_finiteText {a b : ℚ} (hstart : FiniteText (trim start.toList) x a)
    (hstop : FiniteText (trim stop.toList) y b) : read (line start stop) =
      if a = b then .error (.degenerateInterval x) else .ok (x, y) := by
  obtain ⟨hx, ha⟩ := finiteText_iff.1 hstart
  obtain ⟨hy, hb⟩ := finiteText_iff.1 hstop
  have hsame : (x == y) = true ↔ a = b := (beq_iff ha hb).trans coe_inj
  rw [read_of_boundsText (boundsText_line_iff.2 ⟨hx, hy⟩), isFinite_iff.2 ⟨a, ha⟩,
    isFinite_iff.2 ⟨b, hb⟩]
  simp [hsame]

/-- **What is read of the line for any two texts.** Bounds are read exactly if both texts are
numerals with finite and different values, apart from blanks around them, and no interval exactly if
both are blank. Two numerals of one value make an interval degenerate, and a bound that is not
finite is refused as such; every other line is malformed. So nothing that is typed for one bound can
change the other, or be read as part of the line around it. -/
theorem read_line (start stop : String) :
    (∀ x y, read (line start stop) = .ok (x, y) ↔
      ∃ a b, FiniteText (trim start.toList) x a ∧ FiniteText (trim stop.toList) y b ∧ a ≠ b) ∧
    (read (line start stop) = .error .undefinedInterval ↔
      blank start.toList = true ∧ blank stop.toList = true) ∧
    (∀ x, read (line start stop) = .error (.degenerateInterval x) ↔
      ∃ y a, FiniteText (trim start.toList) x a ∧ FiniteText (trim stop.toList) y a) ∧
    (∀ x y, read (line start stop) = .error (.nonFiniteBound x y) ↔
      BoundText (trim start.toList) x ∧ BoundText (trim stop.toList) y ∧
        (x.isFinite = false ∨ y.isFinite = false)) ∧
    ((∃ x y, read (line start stop) = .ok (x, y)) ∨
      read (line start stop) = .error .undefinedInterval ∨
      (∃ x, read (line start stop) = .error (.degenerateInterval x)) ∨
      (∃ x y, read (line start stop) = .error (.nonFiniteBound x y)) ∨
      read (line start stop) = .error (.malformedInterval (line start stop))) := by
  have hreading := reading_read (line start stop)
  refine ⟨?_, ?_, ?_, ?_, ?_⟩
  · intro x y
    constructor
    · intro h
      rw [h] at hreading
      cases hreading with
      | bounds hform ha hb hne =>
        obtain ⟨hstart, hstop⟩ := boundsText_line_iff.1 hform
        exact ⟨_, _, finiteText_iff.2 ⟨hstart, ha⟩, finiteText_iff.2 ⟨hstop, hb⟩, hne⟩
    · rintro ⟨a, b, hstart, hstop, hne⟩
      rw [read_line_of_finiteText hstart hstop, if_neg hne]
  · constructor
    · intro h
      rw [h] at hreading
      cases hreading with
      | undefined hform => exact undefinedText_line_iff.1 hform
    · intro h
      exact read_of_undefinedText (undefinedText_line_iff.2 h)
  · intro x
    constructor
    · intro h
      rw [h] at hreading
      cases hreading with
      | degenerate hform ha hb =>
        obtain ⟨hstart, hstop⟩ := boundsText_line_iff.1 hform
        exact ⟨_, _, finiteText_iff.2 ⟨hstart, ha⟩, finiteText_iff.2 ⟨hstop, hb⟩⟩
    · rintro ⟨y, a, hstart, hstop⟩
      rw [read_line_of_finiteText hstart hstop, if_pos rfl]
  · intro x y
    constructor
    · intro h
      rw [h] at hreading
      cases hreading with
      | nonFinite hform hfinite =>
        obtain ⟨hstart, hstop⟩ := boundsText_line_iff.1 hform
        exact ⟨hstart, hstop, hfinite⟩
    · rintro ⟨hstart, hstop, hfinite⟩
      rw [read_of_boundsText (boundsText_line_iff.2 ⟨hstart, hstop⟩), if_pos (by simpa using hfinite)]
  · have htrimmed := (isTrimmed_line start stop).trimmed_eq
    generalize read (line start stop) = r at hreading ⊢
    cases hreading with
    | undefined => exact .inr (.inl rfl)
    | nonFinite => exact .inr (.inr (.inr (.inl ⟨_, _, rfl⟩)))
    | degenerate => exact .inr (.inr (.inl ⟨_, rfl⟩))
    | bounds => exact .inl ⟨_, _, rfl⟩
    | malformed => exact .inr (.inr (.inr (.inr (by rw [htrimmed]))))

/-- Marks that are typed do not make another interval. -/
example : read (line "0 ; 1]" "2") = .error (.malformedInterval "[0 ; 1] ; 2]") := by
  decide +kernel

end Quadrature.Interval

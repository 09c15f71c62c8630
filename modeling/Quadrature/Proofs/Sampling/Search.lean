import Quadrature.Proofs.Double.Negation
import Quadrature.Proofs.Double.Whole
import Quadrature.Proofs.Sampling.Inside

/-!
# The search over doubles

A finite ascending interval can be searched with any positive finite step. The number of grid
points is the integer part of a rounded quotient, which may be the largest machine word, and the
places of the search run from the left end to the right end.

* `Grid.Stands.steps_eq`: how many grid points there are.
* `Grid.search_earliest`: **a search finds the value at the earliest of the best places.**
-/

namespace Quadrature

open Double Scalar

namespace Grid

variable {g : Grid Float}

theorem exists_stands (hlo : g.lo.isFinite = true) (hhi : g.hi.isFinite = true)
    (hle : g.lo ≤ g.hi) (hstep : g.step.isFinite = true) (hpos : 0 < g.step) :
    ∃ a b σ : ℚ, g.Stands a b σ := by
  obtain ⟨a, ha⟩ := isFinite_iff.1 hlo
  obtain ⟨b, hb⟩ := isFinite_iff.1 hhi
  have hab : a ≤ b := by
    rw [le_iff ha hb] at hle
    exact_mod_cast hle
  have hzero : (ofNat 0 : Float) = 0 := by rfl
  have hpositive : isPositive g.step = true := by
    unfold isPositive
    rw [hzero, Bool.and_eq_true]
    exact ⟨hstep, decide_eq_true hpos⟩
  obtain ⟨σ, hσ, hvalue⟩ := isPositive_iff.1 hpositive
  exact ⟨a, b, σ, ha, hb, hvalue, hab, hσ⟩

namespace Stands

variable {a b σ : ℚ}

/-- **The number of grid points** is the integer part of the rounded quotient. -/
theorem steps_eq (h : g.Stands a b σ) :
    ∃ v, value? ((g.hi - g.lo) / g.step) = some v ∧ g.steps = v.wholePart := by
  have hwidth := value?_sub h.hi h.lo
  have hquotient := value?_div_eq (g.hi - g.lo) h.step h.pos
  rw [hwidth, Option.map_some] at hquotient
  exact ⟨_, hquotient, wholePart_eq hquotient⟩

/-- Its samples in the order of the arithmetic. -/
theorem le_samples (h : g.Stands a b σ) (x : Float) (hx : g.Samples x) :
    Scalar.le g.lo x = true ∧ Scalar.le x g.hi = true := by
  obtain ⟨hle, hge⟩ := h.between hx
  exact ⟨scalar_le_iff.2 hle, scalar_le_iff.2 hge⟩

end Stands

end Grid

/-- Doubles that are not smaller than each other are equal as numbers. -/
theorem float_beq_of_le {x y : Float} (h : Scalar.le x y = true) (h' : Scalar.le y x = true) :
    (x == y) = true := by
  obtain ⟨v, w, hv, hw, hle⟩ := exists_value_of_le (scalar_le_iff.1 h)
  have hge := (le_iff hw hv).1 (scalar_le_iff.1 h')
  exact (beq_iff hv hw).2 (le_antisymm hle hge)

/-- **A search of a finite ascending interval with a positive step** is carried out. It looks at
the left end, at as many whole steps from it as there are, cut off at the right end, and at the
right end; these places lie between the ends, from left to right. A first value that is not a
number is the result; otherwise the result is the value at the earliest of the best places, and
values that are not numbers are as good as left out. So a function that ascends has its smallest
value at the left end and its largest at the right end, whatever the step. -/
theorem Grid.search_earliest {g : Grid Float} (hlo : g.lo.isFinite = true)
    (hhi : g.hi.isFinite = true) (hle : g.lo ≤ g.hi) (hstep : g.step.isFinite = true)
    (hpos : 0 < g.step) (k : Extremum) (f : Float → Float) :
    (∃ n, value? ((g.hi - g.lo) / g.step) = some n ∧ g.steps = n.wholePart) ∧
    (g.place 0 = g.lo ∧ g.place (g.steps + 1) = g.hi ∧
      ∀ i, 1 ≤ i → i ≤ g.steps → g.place i = least (g.lo + ofNat i * g.step) g.hi) ∧
    (∀ i ≤ g.steps + 1, g.lo ≤ g.place i ∧ g.place i ≤ g.hi) ∧
    (∀ i ≤ g.steps, g.place i ≤ g.place (i + 1)) ∧
    ∃ v, g.search k f = .ok v ∧
      ((f g.lo).isNaN = true → v.isNaN = true) ∧
      ((f g.lo).isNaN = false →
        ∃ j, IsLeast {i | k.Best (fun i => f (g.place i)) (g.steps + 1) i} j ∧
          v = f (g.place j)) ∧
      v = ((g.later f).filter fun w => !w.isNaN).foldl k.better (f g.lo) ∧
      (AscendsOn f g.lo g.hi → (k = .min → v = f g.lo) ∧ (k = .max → (v == f g.hi) = true)) := by
  obtain ⟨a, b, σ, h⟩ := exists_stands hlo hhi hle hstep hpos
  have hsearch : g.search k f = .ok (g.extremum k f) := by
    unfold search
    rw [h.unmet?_eq_none]
  have hnumber : ∀ w : Float, (!w.isNaN) = true ↔ IsNumber w := by
    intro w
    rw [isNumber_iff_isNaN, Bool.not_eq_true']
  refine ⟨h.steps_eq, ?_, ?_, ?_, g.extremum k f, hsearch, ?_, ?_, ?_, ?_⟩
  · exact ⟨place_zero g, place_last g, fun i hpos hi => place_of_le hpos hi⟩
  · intro i hi
    exact h.between (samples_place hi)
  · intro i hi
    exact h.place_le_place hi
  · intro hnan
    have hnot : ¬ IsNumber (f g.lo) := by
      rw [isNumber_iff_isNaN, hnan]
      exact Bool.noConfusion
    rw [extremum_of_not_isNumber hnot, hnan]
  · intro hnan
    exact extremum_earliest (isNumber_iff_isNaN.2 hnan)
  · exact extremum_eq_foldl_numbers hnumber
  · intro hascends
    obtain ⟨hmin, hmax⟩ := extremum_of_worsensOn h.le_samples hascends.worsensOn
    constructor
    · rintro rfl
      exact hmin
    · rintro rfl
      exact float_beq_of_le hmax.1 hmax.2

/-- A function with two smallest samples and no value in between: the first of the two is found. -/
theorem Grid.search_twoSmallest :
    (⟨-1, 1, 0.5⟩ : Grid Float).search .min (fun x => x * x * x / x) = .ok 0.25 ∧
      (0 * 0 * 0 / 0 : Float).isNaN = true ∧
      ∃ j, IsLeast {i | Extremum.min.Best
          (fun i => (fun x => x * x * x / x) ((⟨-1, 1, 0.5⟩ : Grid Float).place i)) 5 i} j ∧
        (0.25 : Float) = (fun x => x * x * x / x) ((⟨-1, 1, 0.5⟩ : Grid Float).place j) := by
  have hsearch : (⟨-1, 1, 0.5⟩ : Grid Float).search .min (fun x => x * x * x / x) = .ok 0.25 := by
    decide +kernel
  have hsteps : (⟨-1, 1, 0.5⟩ : Grid Float).steps = 4 := by decide +kernel
  obtain ⟨-, -, -, -, v, hv, -, hearliest, -⟩ :=
    Grid.search_earliest (g := ⟨-1, 1, 0.5⟩) (by decide +kernel) (by decide +kernel)
      (by decide +kernel) (by decide +kernel) (by decide +kernel) .min (fun x => x * x * x / x)
  obtain rfl : 0.25 = v := Except.ok.inj (hsearch.symm.trans hv)
  rw [hsteps] at hearliest
  exact ⟨hsearch, by decide +kernel, hearliest (by decide +kernel)⟩

end Quadrature

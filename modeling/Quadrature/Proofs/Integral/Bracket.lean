import Quadrature.Proofs.Double.Ordered
import Quadrature.Proofs.Integral.Containment

/-!
# The Darboux sums are bounds

In every ordered arithmetic the three sums of a plan are in order, the lower Darboux sum below the
upper one and a Riemann sum that is sampled at the ends of the parts between them, as far as they
are numbers. All three are taken over the same parts with the same width, and the ends of a part are
among the samples of its search.

* `Plan.lower_le_upper`, `Plan.lower_le_riemann`, `Plan.riemann_le_upper`: the sums of a plan.
* `integrate_bracketed`: **the sums of a request over doubles**, in either direction.
-/

namespace Quadrature

open Scalar

section Ordered

variable {α : Type} [Scalar α]

/-- The sums of a plan, once they are taken. -/
theorem Plan.of_sums {p : Plan α} {f : α → α} {v : Sums α} (h : p.sums f = .ok v) :
    v = ⟨p.partition.riemann p.fineness.rule f, p.partition.darboux p.fineness.step .min f,
      p.partition.darboux p.fineness.step .max f⟩ := by
  unfold sums riemann darboux Partition.riemann? Partition.darboux? at h
  by_cases hle : le p.partition.lo p.partition.hi = true
  · rw [if_pos hle, if_pos hle, if_pos hle] at h
    cases hu : p.partition.unmet? p.fineness.step with
    | none =>
      rw [hu] at h
      exact (Except.ok.inj h).symm
    | some u =>
      rw [hu] at h
      cases h
  · rw [if_neg hle] at h
    cases h

/-- A part that is sampled at one of its ends is sampled where it is searched. -/
theorem Partition.samples_sample (p : Partition α) (step : α) {rule : Rule}
    (h : rule ≠ .midpoint) (i : ℕ) : (p.grid step i).Samples (p.sample rule i) := by
  cases rule with
  | left => exact .lo
  | right => exact .hi
  | midpoint => exact absurd rfl h

variable [OrderedScalar α]

/-- The smallest and the largest sample of a search. -/
theorem Grid.extremum_min_le_max {g : Grid α} {f : α → α} (hmin : IsNumber (g.extremum .min f))
    (hmax : IsNumber (g.extremum .max f)) :
    le (g.extremum .min f) (g.extremum .max f) = true := by
  -- both are compared with the sample at the left end
  have hlo := isNumber_of_extremum hmin
  have hleft : le (g.extremum .min f) (f g.lo) = true :=
    extremum_asGood_of_isNumber (k := .min) hmin .lo hlo
  have hright : le (f g.lo) (g.extremum .max f) = true :=
    extremum_asGood_of_isNumber (k := .max) hmax .lo hlo
  exact OrderedScalar.le_trans hleft hright

namespace Plan

variable {p : Plan α} {f : α → α} {v : Sums α}

theorem lower_le_upper (hd : le (ofNat 0) p.partition.width = true)
    (hfin : isFinite p.partition.width = true) (h : p.sums f = .ok v) (hl : IsNumber v.lower)
    (hu : IsNumber v.upper) : le v.lower v.upper = true := by
  rw [of_sums h] at hl hu ⊢
  refine Partition.sum_le_sum hd hfin ?_ hl hu
  intro i _ hmin hmax
  exact Grid.extremum_min_le_max hmin hmax

theorem lower_le_riemann (hd : le (ofNat 0) p.partition.width = true)
    (hfin : isFinite p.partition.width = true) (h : p.sums f = .ok v)
    (hrule : p.fineness.rule ≠ .midpoint) (hl : IsNumber v.lower) (hr : IsNumber v.riemann) :
    le v.lower v.riemann = true := by
  rw [of_sums h] at hl hr ⊢
  refine Partition.sum_le_sum hd hfin ?_ hl hr
  intro i _ hmin hsample
  exact Grid.extremum_asGood_of_isNumber (k := .min) hmin
    (p.partition.samples_sample p.fineness.step hrule i) hsample

theorem riemann_le_upper (hd : le (ofNat 0) p.partition.width = true)
    (hfin : isFinite p.partition.width = true) (h : p.sums f = .ok v)
    (hrule : p.fineness.rule ≠ .midpoint) (hr : IsNumber v.riemann) (hu : IsNumber v.upper) :
    le v.riemann v.upper = true := by
  rw [of_sums h] at hr hu ⊢
  refine Partition.sum_le_sum hd hfin ?_ hr hu
  intro i _ hsample hmax
  exact Grid.extremum_asGood_of_isNumber (k := .max) hmax
    (p.partition.samples_sample p.fineness.step hrule i) hsample

end Plan

end Ordered

/-! ### Doubles -/

open Double

/-- In an order, the Darboux sums bracket each other and a Riemann sum that is sampled at the ends
of the parts, unless one of those compared is not a number. -/
structure Sums.Bracketed (v : Sums Float) (rule : Rule) (r : Float → Float → Prop) : Prop where
  darboux : v.lower.isNaN = false → v.upper.isNaN = false → r v.lower v.upper
  riemann : rule ≠ .midpoint → v.lower.isNaN = false → v.riemann.isNaN = false →
    v.upper.isNaN = false → r v.lower v.riemann ∧ r v.riemann v.upper

theorem isNaN_neg (x : Float) : (-x).isNaN = x.isNaN := by
  rw [Bool.eq_iff_iff, ← not_iff_not, Bool.not_eq_true, Bool.not_eq_true, isNaN_eq_false_iff,
    isNaN_eq_false_iff, value?_neg_eq]
  cases value? x <;> simp

theorem float_neg_le_neg {x y : Float} (h : x ≤ y) : -y ≤ -x :=
  scalar_le_iff.1 (OrderedScalar.neg_le_neg (scalar_le_iff.2 h))

/-- **Negated sums are in order the other way.** -/
theorem Sums.Bracketed.negated {v : Sums Float} {rule : Rule} (h : v.Bracketed rule (· ≤ ·)) :
    v.negated.Bracketed rule (· ≥ ·) where
  darboux hl hu := by
    rw [Sums.negated, isNaN_neg] at hl hu
    exact float_neg_le_neg (h.darboux hl hu)
  riemann hrule hl hr hu := by
    rw [Sums.negated, isNaN_neg] at hl hr hu
    obtain ⟨hle, hle'⟩ := h.riemann hrule hl hr hu
    exact ⟨float_neg_le_neg hle, float_neg_le_neg hle'⟩

namespace Plan.Stands

variable {p : Plan Float} {a b : ℚ}

/-- A part is as wide as a finite double that is not negative. -/
theorem exists_width (h : p.Stands a b) :
    ∃ w : ℚ, 0 ≤ w ∧ value? p.partition.width = some (w : Number) :=
  ⟨_, near_nonneg (div_nonneg h.near_width_nonneg h.parts_pos.le), h.value?_width⟩

theorem bracketed (h : p.Stands a b) {f : Float → Float} {v : Sums Float}
    (hv : p.sums f = .ok v) : v.Bracketed p.fineness.rule (· ≤ ·) := by
  obtain ⟨w, hw, hwidth⟩ := h.exists_width
  have hd : Scalar.le (ofNat 0) p.partition.width = true := by
    refine scalar_le_iff.2 ((le_iff (value?_nearest_of_le (n := 0) (by norm_num)) hwidth).2 ?_)
    exact_mod_cast hw
  have hfin : isFinite p.partition.width = true := isFinite_iff.2 ⟨w, hwidth⟩
  constructor
  · intro hl hu
    rw [← isNumber_iff_isNaN] at hl hu
    exact scalar_le_iff.1 (lower_le_upper hd hfin hv hl hu)
  · intro hrule hl hr hu
    rw [← isNumber_iff_isNaN] at hl hr hu
    exact ⟨scalar_le_iff.1 (lower_le_riemann hd hfin hv hrule hl hr),
      scalar_le_iff.1 (riemann_le_upper hd hfin hv hrule hr hu)⟩

end Plan.Stands

/-- **The Darboux sums are bounds.** Whatever is integrated, from the smaller end to the larger one
the lower sum is below the upper one, with a Riemann sum sampled at the ends of the parts between
them; from the larger end to the smaller one it is the other way round. -/
theorem integrate_bracketed {s : Fineness Float} {f : Float → Float} {start stop : Float}
    {v : Sums Float} (h : integrate s f start stop = .ok v) :
    (start < stop → v.Bracketed s.rule (· ≤ ·)) ∧ (stop < start → v.Bracketed s.rule (· ≥ ·)) := by
  cases hp : Plan.ofRequest s start stop with
  | error r =>
    unfold integrate at h
    rw [hp] at h
    cases h
  | ok p =>
    obtain ⟨a, b, hstands, rfl⟩ := Plan.exists_stands hp
    obtain ⟨-, -, -, -, -, hdirected⟩ := Plan.of_ofRequest hp
    have hreversed : p.reversed = lt stop start := by rw [hdirected, Plan.directed]
    rw [integrate_of_plan hp] at h
    cases hv : p.sums f with
    | error u =>
      rw [hv] at h
      cases h
    | ok w =>
      rw [hv] at h
      obtain rfl : p.orient w = v := Except.ok.inj h
      have hw := hstands.bracketed hv
      unfold Plan.orient
      rw [hreversed]
      constructor
      · intro hlt
        obtain ⟨x, y, hx, hy, hxy⟩ := exists_value_of_lt hlt
        have hnot : ¬ lt stop start = true := by
          intro hlt'
          exact hxy.not_gt ((lt_iff hy hx).1 (of_decide_eq_true hlt'))
        rw [if_neg hnot]
        exact hw
      · intro hlt
        have hpos : lt stop start = true := decide_eq_true hlt
        rw [if_pos hpos]
        exact hw.negated

/-- The identity over two parts, downwards from one to zero. -/
theorem integrate_downwards :
    (⟨-0.25, -0.25, -0.75⟩ : Sums Float).Bracketed .left (· ≥ ·) := by
  have h : integrate ⟨2, 0.5, .left⟩ (fun x : Float => x) 1 0 = .ok ⟨-0.25, -0.25, -0.75⟩ := by
    decide +kernel
  exact (integrate_bracketed h).2 (by decide +kernel)

end Quadrature

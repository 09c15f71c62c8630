import Quadrature.Proofs.Double.SignedZero
import Quadrature.Proofs.Integral.Outcome
import Quadrature.Proofs.Sampling.Search

/-!
# Integrals of monotone functions

A monotone function has its extrema over a part at the ends of the part, where the search of the
part looks. So its Darboux sums are the Riemann sums that are sampled at the left and at the right
ends of the parts.

* `Partition.Nested`: the parts are searched inside, and lie inside.
* `Partition.extremum_part`: **the extrema over a part**, in every ordered arithmetic.
* `integrate_monotone`: **the Darboux sums over doubles**, bit for bit.
-/

namespace Quadrature

open Scalar

section Ordered

variable {α : Type} [Scalar α]

/-- Every part is searched between its ends, and they lie between those of the interval. -/
structure Partition.Nested (p : Partition α) (step : α) : Prop where
  samples : ∀ i < p.parts, ∀ x, (p.grid step i).Samples x →
    le (p.point i) x = true ∧ le x (p.point (i + 1)) = true
  points : ∀ i ≤ p.parts, le p.lo (p.point i) = true ∧ le (p.point i) p.hi = true

variable [OrderedScalar α] {p : Partition α} {step : α} {k : Extremum} {f : α → α} {i : ℕ}

/-- What is monotone on the interval is monotone on its parts. -/
theorem Extremum.WorsensOn.part (h : k.WorsensOn f p.lo p.hi) (hp : p.Nested step)
    (hi : i < p.parts) : k.WorsensOn f (p.point i) (p.point (i + 1)) := by
  intro x y hx hxy hy
  have hlo := (hp.points i hi.le).1
  have hhi := (hp.points (i + 1) hi).2
  exact h x y (OrderedScalar.le_trans hlo hx) hxy (OrderedScalar.le_trans hy hhi)

/-- **The extrema over a part** are its left value and, as far as the order tells, its right one. -/
theorem Partition.extremum_part (h : k.WorsensOn f p.lo p.hi) (hp : p.Nested step)
    (hi : i < p.parts) :
    (p.grid step i).extremum k f = f (p.point i) ∧
      le ((p.grid step i).extremum k.other f) (f (p.point (i + 1))) = true ∧
      le (f (p.point (i + 1))) ((p.grid step i).extremum k.other f) = true :=
  Grid.extremum_of_worsensOn (g := p.grid step i) (hp.samples i hi) (h.part hp hi)

/-- **The sum of the values that come first** is sampled at the left ends. -/
theorem Partition.darboux_eq_left (h : k.WorsensOn f p.lo p.hi) (hp : p.Nested step) :
    p.darboux step k f = p.riemann .left f := by
  refine sum_congr ?_
  intro i hi
  exact (extremum_part h hp hi).1

end Ordered

/-! ### Doubles -/

open Double

/-- **The sum of the values that come last** is sampled at the right ends. The largest samples are
equal to the values there as numbers, and no running sum tells one zero from the other. -/
theorem Partition.darboux_eq_right {p : Partition Float} {step : Float} {k : Extremum}
    {f : Float → Float} (h : k.WorsensOn f p.lo p.hi) (hp : p.Nested step) :
    p.darboux step k.other f = p.riemann .right f := by
  refine fold_eq_of_value?_eq ?_
  intro i hi
  obtain ⟨-, hle, hge⟩ := extremum_part h hp hi
  exact alike_iff.1 (.inl (float_beq_of_le hle hge))

namespace Plan

variable {p : Plan Float} {a b : ℚ} {f : Float → Float} {w : Sums Float}

theorem Stands.not_overshoots_of_sums (h : p.Stands a b) (hw : p.sums f = .ok w) :
    ¬ p.partition.Overshoots := by
  have hle : Scalar.le p.lo p.hi = true :=
    scalar_le_iff.2 ((le_iff h.lo h.hi).2 (by exact_mod_cast h.lt.le))
  have hout := p.sums_outcome hle f
  rw [← h.unmet?_eq_none_iff]
  cases hu : p.partition.unmet? p.fineness.step with
  | none => rfl
  | some u =>
    rw [hu] at hout
    cases hout.symm.trans hw

/-- **The parts of a plan whose sums are taken** are nested. -/
theorem Stands.nested (h : p.Stands a b) (ho : ¬ p.partition.Overshoots) :
    p.partition.Nested p.fineness.step where
  samples i hi x hx := by
    obtain ⟨q, r, σ, hgrid⟩ := h.exists_grid ho hi
    exact hgrid.le_samples x hx
  points i hi := by
    obtain ⟨hle, hge⟩ := h.point_between ho hi
    exact ⟨scalar_le_iff.2 hle, scalar_le_iff.2 hge⟩

/-- **The Darboux sums of a monotone function** are its Riemann sums at the ends of the parts. -/
theorem Stands.darboux_eq (h : p.Stands a b) (hw : p.sums f = .ok w) {k : Extremum}
    (hk : k.WorsensOn f p.partition.lo p.partition.hi) :
    p.partition.darboux p.fineness.step k f = p.partition.riemann .left f ∧
      p.partition.darboux p.fineness.step k.other f = p.partition.riemann .right f := by
  have hnested := h.nested (h.not_overshoots_of_sums hw)
  exact ⟨Partition.darboux_eq_left hk hnested, Partition.darboux_eq_right hk hnested⟩

/-- The plan of a request that ascends. -/
theorem of_ascending {s : Fineness Float} {start stop : Float} (hlt : start < stop)
    (hp : ofRequest s start stop = .ok p) :
    p.partition.lo = start ∧ p.partition.hi = stop ∧ ∀ w : Sums Float, p.orient w = w := by
  obtain ⟨-, -, -, -, -, hdirected⟩ := of_ofRequest hp
  have hnot : lt stop start = false := by
    obtain ⟨x, y, hx, hy, hxy⟩ := exists_value_of_lt hlt
    refine decide_eq_false ?_
    rw [lt_iff hy hx]
    exact hxy.not_gt
  rw [hdirected]
  simp [directed, hnot, partition, Fineness.partition, orient]

end Plan

/-- **Monotone functions.** Over an ascending interval, the lower Darboux sum of a function that
ascends is its Riemann sum at the left ends of the parts and the upper one that at the right ends;
of a function that descends it is the other way round. The sums are the same doubles, whatever the
step of the search. -/
theorem integrate_monotone {s : Fineness Float} {f : Float → Float} {start stop : Float}
    {v : Sums Float} (hlt : start < stop) (h : integrate s f start stop = .ok v) :
    ∃ left right, integrate (s.withRule .left) f start stop = .ok left ∧
      integrate (s.withRule .right) f start stop = .ok right ∧
      (AscendsOn f start stop → v.lower = left.riemann ∧ v.upper = right.riemann) ∧
      (DescendsOn f start stop → v.lower = right.riemann ∧ v.upper = left.riemann) := by
  obtain ⟨p, w, hp, hw, rfl⟩ := exists_plan_of_integrate h
  obtain ⟨a, b, hstands, -⟩ := Plan.exists_stands hp
  obtain ⟨hlo, hhi, horient⟩ := Plan.of_ascending hlt hp
  have hruled : ∀ r : Rule, integrate (s.withRule r) f start stop =
      .ok { w with riemann := p.partition.riemann r f } := by
    intro r
    rw [integrate_withRule hp hw r, horient]
  rw [← hlo, ← hhi] at hruled ⊢
  refine ⟨_, _, hruled .left, hruled .right, ?_, ?_⟩
  · intro hascends
    obtain ⟨hleft, hright⟩ := hstands.darboux_eq hw hascends.worsensOn
    rw [Extremum.other] at hright
    rw [horient, Plan.of_sums hw, hleft, hright]
    exact ⟨rfl, rfl⟩
  · intro hdescends
    obtain ⟨hleft, hright⟩ := hstands.darboux_eq hw hdescends.worsensOn
    rw [Extremum.other] at hright
    rw [horient, Plan.of_sums hw, hleft, hright]
    exact ⟨rfl, rfl⟩

/-- The identity over two parts of the unit interval, its integral taken with samples in the middle
of the parts. -/
theorem integrate_identity :
    ∃ left right, integrate ⟨2, 0.25, .left⟩ (fun x : Float => x) 0 1 = .ok left ∧
      integrate ⟨2, 0.25, .right⟩ (fun x : Float => x) 0 1 = .ok right ∧
      0.25 = left.riemann ∧ 0.75 = right.riemann := by
  have h : integrate ⟨2, 0.25, .midpoint⟩ (fun x : Float => x) 0 1 = .ok ⟨0.5, 0.25, 0.75⟩ := by
    decide +kernel
  obtain ⟨left, right, hleft, hright, hascends, -⟩ := integrate_monotone (by decide +kernel) h
  exact ⟨left, right, hleft, hright, hascends fun x y _ hxy _ => hxy⟩

end Quadrature

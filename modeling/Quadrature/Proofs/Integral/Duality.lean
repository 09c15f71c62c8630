import Quadrature.Proofs.Integral.Monotone
import Quadrature.Proofs.Integral.Outcome

/-!
# Integrals of negated functions

A product with minus one is a negation, whatever the other factor is, and negation turns the order
around. So a search for the smallest value of a negated function goes through the same comparisons
as a search for the largest value of the function itself: the same samples are kept and passed over,
and what is not a number is so in both.

* `Mirrored`: doubles on opposite sides of zero.
* `better_mirrored`, `extremum_mirrored`: **one comparison, and a search.**
* `Plan.sums_mirrored`, `integrate_dual`: **the sums of a negated function.**
-/

namespace Quadrature

open Double Scalar

namespace Double

variable {x x' y y' : Float}

/-- The second one stands for the number on the other side of zero, or neither is a number. -/
def Mirrored (x y : Float) : Prop := value? y = (value? x).map Number.neg

theorem mirrored_iff : Mirrored x y ↔ Alike y (-x) := by
  rw [alike_iff, value?_neg_eq]
  exact Iff.rfl

/-! ### Arithmetic -/

theorem number_neg_neg (v : Number) : v.neg.neg = v := by
  induction v using WithBotTop.rec with
  | bot | top => rfl
  | coe a => exact congrArg (fun q : ℚ => (q : Number)) (neg_neg a)

theorem number_neg_lt_neg_iff {v w : Number} : v.neg < w.neg ↔ w < v := by
  rw [← not_le, ← not_le, not_iff_not]
  constructor
  · intro h
    have hle := Number.neg_anti h
    rwa [number_neg_neg, number_neg_neg] at hle
  · exact Number.neg_anti

namespace Number

theorem scaled?_neg_left (v w : Number) : scaled? v.neg w = (scaled? v w).map neg := by
  unfold scaled?
  split
  · rfl
  split <;> rfl

theorem scaled?_neg_right (v : Number) (a : ℚ) :
    scaled? v ((-a : ℚ) : Number) = (scaled? v (a : Number)).map neg := by
  rcases lt_trichotomy a 0 with h | rfl | h
  · rw [scaled?_neg h, scaled?_pos (neg_pos.2 h), Option.map_some, number_neg_neg]
  · rw [neg_zero, scaled?_zero]
    rfl
  · rw [scaled?_pos h, scaled?_neg (neg_lt_zero.2 h), Option.map_some]

theorem mul?_neg_left (v w : Number) : mul? v.neg w = (mul? v w).map neg := by
  induction v using WithBotTop.rec with
  | bot => induction w using WithBotTop.rec <;> exact scaled?_neg_left ⊥ _
  | top => induction w using WithBotTop.rec <;> exact scaled?_neg_left ⊤ _
  | coe a =>
    induction w using WithBotTop.rec with
    | bot | top => exact scaled?_neg_right _ a
    | coe b =>
      change some (rounded (-a * b)) = some (rounded (a * b)).neg
      rw [neg_mul, rounded_neg]

end Number

/-- **A product with minus one is a negation.** -/
theorem mirrored_mul_neg_one (x : Float) : Mirrored x (-1 * x) := by
  have hone : value? (-1 : Float) = some ((-1 : ℚ) : Number) := by
    have h : (1 : Float) = nearest 1 := by decide +kernel
    rw [value?_neg_eq, h, value?_nearest_of_le (by norm_num), Nat.cast_one]
    rfl
  have hneg : (-1 : ℚ) < 0 := by norm_num
  unfold Mirrored
  rw [value?_mul_eq, hone]
  cases hx : value? x with
  | none => rfl
  | some v =>
    induction v using WithBotTop.rec with
    | bot | top => exact Number.scaled?_neg hneg
    | coe a =>
      -- a double is not rounded any further
      change some (rounded (-1 * a)) = some (Number.neg (a : Number))
      rw [neg_one_mul, rounded_neg, rounded_of_value? hx]

theorem Mirrored.neg (h : Mirrored x y) : Mirrored (-x) (-y) := by
  unfold Mirrored at h ⊢
  rw [value?_neg_eq, value?_neg_eq, h]

theorem Mirrored.add (h : Mirrored x x') (h' : Mirrored y y') : Mirrored (x + y) (x' + y') := by
  unfold Mirrored at h h' ⊢
  rw [value?_add_eq, h, h', value?_add_eq]
  cases value? x with
  | none => rfl
  | some v =>
    cases value? y with
    | none => rfl
    | some w => exact Number.add?_neg_neg v w

theorem Mirrored.mul (h : Mirrored x x') (y : Float) : Mirrored (x * y) (x' * y) := by
  unfold Mirrored at h ⊢
  rw [value?_mul_eq, h, value?_mul_eq]
  cases value? x with
  | none => rfl
  | some v =>
    cases value? y with
    | none => rfl
    | some w => exact Number.mul?_neg_left v w

theorem mirrored_zero : Mirrored (ofNat 0) (ofNat 0) := by
  have hzero : value? (ofNat 0 : Float) = some ((0 : ℚ) : Number) :=
    value?_nearest_of_le (n := 0) (by norm_num)
  unfold Mirrored
  rw [hzero, Option.map_some, Number.neg_coe, neg_zero]

/-! ### Comparisons -/

/-- **Negation turns the order around.** -/
theorem Mirrored.lt_iff (h : Mirrored x x') (h' : Mirrored y y') : x' < y' ↔ y < x := by
  unfold Mirrored at h h'
  constructor
  · intro hlt
    obtain ⟨v', w', hv', hw', hlt'⟩ := exists_value_of_lt hlt
    obtain ⟨v, hv, rfl⟩ := Option.map_eq_some_iff.1 (h.symm.trans hv')
    obtain ⟨w, hw, rfl⟩ := Option.map_eq_some_iff.1 (h'.symm.trans hw')
    exact (Double.lt_iff hw hv).2 (number_neg_lt_neg_iff.1 hlt')
  · intro hlt
    obtain ⟨w, v, hw, hv, hlt'⟩ := exists_value_of_lt hlt
    rw [hv] at h
    rw [hw] at h'
    exact (Double.lt_iff h h').2 (number_neg_lt_neg_iff.2 hlt')

end Double

/-! ### Searches and sums -/

namespace Extremum

variable {k : Extremum} {x x' y y' : Float}

theorem improves_mirrored (h : Mirrored x x') (h' : Mirrored y y') :
    k.other.improves x' y' = k.improves x y := by
  cases k with
  | min => exact decide_eq_decide.2 (h'.lt_iff h)
  | max => exact decide_eq_decide.2 (h.lt_iff h')

/-- **One comparison.** -/
theorem better_mirrored (h : Mirrored x x') (h' : Mirrored y y') :
    Mirrored (k.better x y) (k.other.better x' y') := by
  unfold better
  rw [improves_mirrored h' h]
  split
  · exact h'
  · exact h

end Extremum

section Mirrored

variable {f f' : Float → Float}

/-- **A search.** -/
theorem Grid.extremum_mirrored (g : Grid Float) (k : Extremum) (hf : ∀ x, Mirrored (f x) (f' x)) :
    Mirrored (g.extremum k f) (g.extremum k.other f') := by
  have hfold : ∀ n : ℕ,
      Mirrored (n.fold (fun i _ best => k.better best (f (g.point (i + 1)))) (f g.lo))
        (n.fold (fun i _ best => k.other.better best (f' (g.point (i + 1)))) (f' g.lo)) := by
    intro n
    induction n with
    | zero => exact hf g.lo
    | succ n ih =>
      rw [Nat.fold_succ, Nat.fold_succ]
      exact Extremum.better_mirrored ih (hf _)
  exact Extremum.better_mirrored (hfold g.steps) (hf g.hi)

namespace Partition

variable (p : Partition Float)

theorem sum_mirrored {v v' : ℕ → Float} (h : ∀ i, Mirrored (v i) (v' i)) :
    Mirrored (p.sum v) (p.sum v') := by
  have hfold : ∀ n : ℕ, Mirrored (n.fold (fun i _ s => s + v i * p.width) (ofNat 0))
      (n.fold (fun i _ s => s + v' i * p.width) (ofNat 0)) := by
    intro n
    induction n with
    | zero => exact mirrored_zero
    | succ n ih =>
      rw [Nat.fold_succ, Nat.fold_succ]
      exact ih.add ((h n).mul p.width)
  exact hfold p.parts

theorem riemann_mirrored (r : Rule) (hf : ∀ x, Mirrored (f x) (f' x)) :
    Mirrored (p.riemann r f) (p.riemann r f') :=
  p.sum_mirrored fun _ => hf _

theorem darboux_mirrored (step : Float) (k : Extremum) (hf : ∀ x, Mirrored (f x) (f' x)) :
    Mirrored (p.darboux step k f) (p.darboux step k.other f') :=
  p.sum_mirrored fun i => (p.grid step i).extremum_mirrored k hf

end Partition

/-! ### Three sums -/

/-- Sums and those of the negated function. -/
structure Sums.Dual (v w : Sums Float) : Prop where
  riemann : Alike w.riemann (-v.riemann)
  lower : Alike w.lower (-v.upper)
  upper : Alike w.upper (-v.lower)

theorem Sums.Dual.negated {v w : Sums Float} (h : v.Dual w) : v.negated.Dual w.negated where
  riemann := mirrored_iff.1 (mirrored_iff.2 h.riemann).neg
  lower := mirrored_iff.1 (mirrored_iff.2 h.lower).neg
  upper := mirrored_iff.1 (mirrored_iff.2 h.upper).neg

theorem Sums.Dual.orient {v w : Sums Float} (h : v.Dual w) (p : Plan Float) :
    (p.orient v).Dual (p.orient w) := by
  unfold Plan.orient
  split
  · exact h.negated
  · exact h

/-- **The sums of a plan.** Whether they are taken does not depend on the function. -/
theorem Plan.sums_mirrored (p : Plan Float) (hf : ∀ x, Mirrored (f x) (f' x)) :
    match p.sums f with
    | .ok v => ∃ w, p.sums f' = .ok w ∧ v.Dual w
    | .error u => p.sums f' = .error u := by
  by_cases hle : le p.lo p.hi = true
  · have hout := sums_outcome hle f
    have hout' := sums_outcome hle f'
    cases hunmet : p.partition.unmet? p.fineness.step with
    | none =>
      rw [hunmet] at hout hout'
      obtain ⟨v, hv⟩ := hout
      obtain ⟨w, hw⟩ := hout'
      have hriemann := p.partition.riemann_mirrored p.fineness.rule hf
      have hlower := p.partition.darboux_mirrored p.fineness.step .max hf
      have hupper := p.partition.darboux_mirrored p.fineness.step .min hf
      rw [hv]
      refine ⟨w, hw, ?_⟩
      rw [of_sums hv, of_sums hw]
      exact ⟨mirrored_iff.1 hriemann, mirrored_iff.1 hlower, mirrored_iff.1 hupper⟩
    | some u =>
      rw [hunmet] at hout hout'
      dsimp only at hout hout'
      rw [hout]
      exact hout'
  · have hdown : ¬ le p.partition.lo p.partition.hi = true := hle
    have hdescending : ∀ h, p.sums h = .error (.descending "riemann_sum") := by
      intro h
      unfold sums riemann Partition.riemann?
      rw [if_neg hdown]
      rfl
    rw [hdescending f]
    exact hdescending f'

end Mirrored

/-- The three sums over an ascending interval, each one taken by itself. -/
structure Fineness.Takes (s : Fineness Float) (lo hi : Float) (f : Float → Float)
    (v : Sums Float) : Prop where
  riemann : (s.partition lo hi).riemann? s.rule f = .ok v.riemann
  lower : (s.partition lo hi).darboux? s.step .min f = .ok v.lower
  upper : (s.partition lo hi).darboux? s.step .max f = .ok v.upper

namespace Plan

variable {s : Fineness Float} {p : Plan Float} {f : Float → Float} {start stop : Float}
  {v : Sums Float}

theorem takes_of_sums (h : p.sums f = .ok v) : p.fineness.Takes p.lo p.hi f v := by
  unfold sums at h
  cases hr : p.riemann f with
  | error u =>
    rw [hr] at h
    cases h
  | ok r =>
    cases hl : p.darboux .min f with
    | error u =>
      rw [hr, hl] at h
      cases h
    | ok l =>
      cases hu : p.darboux .max f with
      | error u =>
        rw [hr, hl, hu] at h
        cases h
      | ok u =>
        rw [hr, hl, hu] at h
        cases h
        exact ⟨hr, hl, hu⟩

theorem takes_of_ascending (hlt : start < stop) (hp : ofRequest s start stop = .ok p)
    (hv : p.sums f = .ok v) : s.Takes start stop f (p.orient v) := by
  obtain ⟨hlo, hhi, horient⟩ := of_ascending hlt hp
  have hfineness : p.fineness = s := by
    obtain ⟨-, -, -, -, -, hdirected⟩ := of_ofRequest hp
    rw [hdirected]
    rfl
  have htakes := takes_of_sums hv
  rwa [hfineness, show p.lo = start from hlo, show p.hi = stop from hhi, ← horient v] at htakes

end Plan

/-- **The integral of a negated function.** Whatever is multiplied by minus one: its sums are taken,
or not for the same reason, and the Riemann sum is the negated one, the lower Darboux sum the
negated upper one and the upper Darboux sum the negated lower one, equal as numbers and with no
number where there was none. On an ascending interval these are the sums as each one is taken by
itself. -/
theorem integrate_dual (s : Fineness Float) (e : Expr Float) (start stop : Float) :
    match integrate s (fun x => e.eval x) start stop with
    | .ok v => ∃ w,
      integrate s (fun x => (Expr.op .mul (.const (-1)) e).eval x) start stop = .ok w ∧
      v.Dual w ∧
      (start < stop → s.Takes start stop (fun x => e.eval x) v ∧
        s.Takes start stop (fun x => (Expr.op .mul (.const (-1)) e).eval x) w)
    | .error u =>
      integrate s (fun x => (Expr.op .mul (.const (-1)) e).eval x) start stop = .error u := by
  have hmirrored : ∀ x, Mirrored (e.eval x) ((Expr.op .mul (.const (-1)) e).eval x) := by
    intro x
    exact mirrored_mul_neg_one (e.eval x)
  cases hp : Plan.ofRequest s start stop with
  | error r =>
    unfold integrate
    rw [hp]
    rfl
  | ok p =>
    have hsums := p.sums_mirrored hmirrored
    rw [integrate_of_plan hp, integrate_of_plan hp]
    cases hv : p.sums fun x => e.eval x with
    | error u =>
      rw [hv] at hsums
      dsimp only at hsums
      rw [hsums]
      rfl
    | ok v =>
      rw [hv] at hsums
      obtain ⟨w, hw, hdual⟩ := hsums
      rw [hw]
      refine ⟨_, rfl, hdual.orient p, ?_⟩
      intro hlt
      exact ⟨Plan.takes_of_ascending hlt hp hv, Plan.takes_of_ascending hlt hp hw⟩

/-- The reciprocal over two parts of the unit interval, whose first sample is infinite: the lower sum
is the only finite one, and with minus one it is the upper one. -/
theorem integrate_dual_reciprocal : ∃ v w,
    integrate ⟨2, 0.25, .left⟩
      (fun x => (Expr.op .div (.const 1) (.var 'x') : Expr Float).eval x) 0 1 = .ok v ∧
    integrate ⟨2, 0.25, .left⟩
      (fun x => (Expr.op .mul (.const (-1)) (.op .div (.const 1) (.var 'x')) : Expr Float).eval x)
      0 1 = .ok w ∧
    v = ⟨1 / 0, 1.5, 1 / 0⟩ ∧ Alike w.upper (-1.5) ∧ Alike w.lower (-(1 / 0)) ∧
    (⟨0, 1, 2⟩ : Partition Float).darboux? 0.25 .max
      (fun x => (Expr.op .mul (.const (-1)) (.op .div (.const 1) (.var 'x')) : Expr Float).eval x) =
        .ok w.upper := by
  have hv : integrate ⟨2, 0.25, .left⟩
      (fun x => (Expr.op .div (.const 1) (.var 'x') : Expr Float).eval x) 0 1 =
        .ok ⟨1 / 0, 1.5, 1 / 0⟩ := by
    decide +kernel
  have hdual := integrate_dual ⟨2, 0.25, .left⟩ (.op .div (.const 1) (.var 'x')) 0 1
  rw [hv] at hdual
  obtain ⟨w, hw, h, htakes⟩ := hdual
  exact ⟨_, w, hv, hw, rfl, h.upper, h.lower, (htakes (by decide +kernel)).2.upper⟩

end Quadrature

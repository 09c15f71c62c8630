import Quadrature.Proofs.Double.Negation
import Quadrature.Proofs.Integral.Containment

/-!
# Integrals in the other direction

A request and the one in the other direction pass or fail the same checks, and come to the same
plan but for its direction. So the same sums are taken, and negated once; what is derived from
negated sums is alike as numbers.

* `Plan.ofRequest_exchanged`: **the plans, or the rejections, of both requests.**
* `Sums.opposite_negated`: what is derived from negated sums.
* `integrate_exchanged`: **the integral in the other direction.**
-/

namespace Quadrature

open Double

/-! ### Requests -/

/-- The rejections of a request and of the one in the other direction. The ends of a degenerate
interval are equal, though one of two zeros may have a minus. -/
inductive Rejection.Exchanged : Rejection Float → Rejection Float → Prop
  | degenerateInterval {start stop : Float} (h : (start == stop) = true) :
    Exchanged (.degenerateInterval start) (.degenerateInterval stop)
  | nonFiniteBound (start stop : Float) :
    Exchanged (.nonFiniteBound start stop) (.nonFiniteBound stop start)
  | intervalTooWide (start stop step : Float) :
    Exchanged (.intervalTooWide start stop step) (.intervalTooWide stop start step)
  | refinementOutOfBounds (n : ℤ) :
    Exchanged (.refinementOutOfBounds n) (.refinementOutOfBounds n)
  | invalidStep (step : Float) : Exchanged (.invalidStep step) (.invalidStep step)

/-- The plan for the other direction. -/
def Plan.turned (p : Plan Float) : Plan Float := { p with reversed := !p.reversed }

@[simp] theorem Plan.turned_lo (p : Plan Float) : p.turned.lo = p.lo := rfl

@[simp] theorem Plan.turned_hi (p : Plan Float) : p.turned.hi = p.hi := rfl

theorem Fineness.exchanged_of_check {s : Fineness Float} {r : Rejection Float}
    (h : s.check = .error r) : r.Exchanged r := by
  unfold check at h
  split at h
  · cases h
    exact .refinementOutOfBounds _
  split at h
  · cases h
    exact .invalidStep _
  · cases h

theorem float_beq_comm (x y : Float) : (x == y) = (y == x) := by
  rw [Bool.eq_iff_iff]
  constructor
  · intro h
    obtain ⟨v, hx, hy⟩ := exists_value_of_beq h
    exact (beq_iff hy hx).2 rfl
  · intro h
    obtain ⟨v, hy, hx⟩ := exists_value_of_beq h
    exact (beq_iff hx hy).2 rfl

/-- Of two different finite ends one is the smaller, whichever is named first. -/
theorem Plan.directed_exchanged (s : Fineness Float) {start stop : Float}
    (hstart : start.isFinite = true) (hstop : stop.isFinite = true)
    (hne : (start == stop) = false) :
    directed s stop start = (directed s start stop).turned := by
  obtain ⟨a, ha⟩ := isFinite_iff.1 hstart
  obtain ⟨b, hb⟩ := isFinite_iff.1 hstop
  have hab : a ≠ b := by
    rintro rfl
    rw [(beq_iff ha hb).2 rfl] at hne
    cases hne
  have hlt : Scalar.lt start stop = !Scalar.lt stop start := by
    rw [Bool.eq_iff_iff, Bool.not_eq_true', ← Bool.not_eq_true, value?_lt ha hb, value?_lt hb ha]
    exact ⟨fun h => h.not_gt, fun h => lt_of_le_of_ne (not_lt.1 h) hab⟩
  unfold directed turned
  rw [hlt]
  cases Scalar.lt stop start <;> rfl

/-- **The plans of a request and of the one in the other direction**, or their rejections. -/
theorem Plan.ofRequest_exchanged (s : Fineness Float) (start stop : Float) :
    match ofRequest s start stop with
    | .error r => ∃ r', ofRequest s stop start = .error r' ∧ r.Exchanged r'
    | .ok p => ofRequest s stop start = .ok p.turned := by
  have hfinite : (!Scalar.isFinite stop || !Scalar.isFinite start) =
      (!Scalar.isFinite start || !Scalar.isFinite stop) := Bool.or_comm _ _
  have hequal : Scalar.eq stop start = Scalar.eq start stop := float_beq_comm stop start
  rw [ofRequest_eq, ofRequest_eq s stop start, hfinite, hequal]
  by_cases hfin : (!Scalar.isFinite start || !Scalar.isFinite stop) = true
  · rw [if_pos hfin, if_pos hfin]
    exact ⟨_, rfl, .nonFiniteBound start stop⟩
  rw [if_neg hfin, if_neg hfin]
  by_cases heq : Scalar.eq start stop = true
  · rw [if_pos heq, if_pos heq]
    exact ⟨_, rfl, .degenerateInterval heq⟩
  rw [if_neg heq, if_neg heq]
  cases hcheck : s.check with
  | error r => exact ⟨r, rfl, s.exchanged_of_check hcheck⟩
  | ok _ =>
    rw [Bool.or_eq_true, not_or, Bool.not_eq_true', Bool.not_eq_true', Bool.not_eq_false,
      Bool.not_eq_false] at hfin
    have hturned := directed_exchanged s hfin.1 hfin.2 (Bool.eq_false_iff.2 heq)
    dsimp only
    rw [hturned, turned_lo, turned_hi]
    -- the width is that of the ascending interval in both directions
    by_cases hw : (!Scalar.isFinite ((directed s start stop).hi - (directed s start stop).lo) ||
        !Scalar.isFinite (((directed s start stop).hi - (directed s start stop).lo) / s.step)) =
        true
    · rw [if_pos hw, if_pos hw]
      exact ⟨_, rfl, .intervalTooWide start stop s.step⟩
    · rw [if_neg hw, if_neg hw]

/-! ### Sums -/

/-- Sums and those of the other direction: the negations, with the same distances and the average
on the other side of zero. -/
structure Sums.Opposite (v w : Sums Float) : Prop where
  sums : w = v.negated
  difference : Alike w.difference v.difference
  average : Alike w.average (-v.average)
  deviation : Alike w.deviation v.deviation

namespace Sums

theorem negated_negated (v : Sums Float) : v.negated.negated = v := by
  unfold negated
  rw [float_neg_neg, float_neg_neg, float_neg_neg]

theorem value?_average (v : Sums Float) :
    value? v.average = (value? (v.upper + v.lower)).map (Number.dividedBy 2) :=
  value?_div_eq _ (value?_nearest_of_le (n := 2) (by norm_num)) two_pos

theorem value?_average_negated (v : Sums Float) :
    value? v.negated.average = value? (-v.average) := by
  rw [value?_neg_eq, value?_average, value?_average]
  change (value? (-v.upper + -v.lower)).map (Number.dividedBy 2) = _
  rw [value?_add_neg, Option.map_map, Option.map_map]
  exact congrArg (fun g => (value? (v.upper + v.lower)).map g) (funext (Number.dividedBy_neg 2))

/-- **What is derived from negated sums.** -/
theorem opposite_negated (v : Sums Float) : v.Opposite v.negated where
  sums := rfl
  difference := by
    refine alike_iff.2 ?_
    change value? (-v.upper - -v.lower).abs = value? (v.upper - v.lower).abs
    rw [value?_abs_eq, value?_abs_eq, value?_sub_neg, Option.map_map]
    exact congrArg (fun g => (value? (v.upper - v.lower)).map g) (funext number_abs_neg)
  average := alike_iff.2 v.value?_average_negated
  deviation := by
    refine alike_iff.2 ?_
    -- the average may be a zero of the other sign, which makes no difference to a distance
    have hsub : value? (v.negated.average - -v.riemann) = value? (-v.average - -v.riemann) := by
      rw [value?_sub_eq, v.value?_average_negated, ← value?_sub_eq]
    change value? (v.negated.average - -v.riemann).abs = value? (v.average - v.riemann).abs
    rw [value?_abs_eq, value?_abs_eq, hsub, value?_sub_neg, Option.map_map]
    exact congrArg (fun g => (value? (v.average - v.riemann)).map g) (funext number_abs_neg)

end Sums

theorem Plan.orient_turned (p : Plan Float) (v : Sums Float) :
    p.turned.orient v = (p.orient v).negated := by
  unfold orient turned
  cases p.reversed with
  | false => rfl
  | true => exact v.negated_negated.symm

/-- **The integral in the other direction.** Whatever is integrated, and whatever was integrated
before, which leaves no trace, a request from `stop` to `start` has sums exactly if the one from
`start` to `stop` has, and they are the negated ones; it is rejected for the same reason, and
stopped by the same part that cannot be searched. -/
theorem integrate_exchanged (s : Fineness Float) (f : Float → Float) (start stop : Float) :
    match integrate s f start stop with
    | .ok v => ∃ w, integrate s f stop start = .ok w ∧ v.Opposite w
    | .error (.rejected r) =>
      ∃ r', integrate s f stop start = .error (.rejected r') ∧ r.Exchanged r'
    | .error (.unmet u) => integrate s f stop start = .error (.unmet u) := by
  have hplan := Plan.ofRequest_exchanged s start stop
  cases hp : Plan.ofRequest s start stop with
  | error r =>
    rw [hp] at hplan
    obtain ⟨r', hp', hr⟩ := hplan
    have hstart : integrate s f start stop = .error (.rejected r) := by
      unfold integrate
      rw [hp]
      rfl
    have hstop : integrate s f stop start = .error (.rejected r') := by
      unfold integrate
      rw [hp']
      rfl
    rw [hstart]
    exact ⟨r', hstop, hr⟩
  | ok p =>
    rw [hp] at hplan
    rw [integrate_of_plan hp, integrate_of_plan hplan]
    have hsums : p.turned.sums f = p.sums f := rfl
    rw [hsums]
    cases p.sums f with
    | error u => rfl
    | ok v =>
      refine ⟨_, rfl, ?_⟩
      rw [p.orient_turned]
      exact (p.orient v).opposite_negated

end Quadrature

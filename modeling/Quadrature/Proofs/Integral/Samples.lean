import Quadrature.Integral.Plan

/-!
# Where the sums look

The three sums of a plan look at a function at finitely many places (`Plan.Samples`), on which
alone they depend (`Plan.sums_congr`). Whether they are taken at all does not depend on the
function: one part that cannot be searched stops them (`Plan.sums_outcome`).
-/

namespace Quadrature

variable {α : Type} [Scalar α]

/-- The places where a search looks. -/
inductive Grid.Samples (g : Grid α) : α → Prop
  | lo : g.Samples g.lo
  | point {j : Nat} (h : j < g.steps) : g.Samples (g.point (j + 1))
  | hi : g.Samples g.hi

/-- The places where one of the three sums looks. -/
inductive Plan.Samples (p : Plan α) : α → Prop
  | rule {i : Nat} (h : i < p.fineness.refinement) :
    p.Samples (p.partition.sample p.fineness.rule i)
  | grid {i : Nat} {x : α} (h : i < p.fineness.refinement)
    (hx : (p.partition.grid p.fineness.step i).Samples x) : p.Samples x

theorem Grid.extremum_congr {g : Grid α} {f f' : α → α} (h : ∀ x, g.Samples x → f x = f' x)
    (k : Extremum) : g.extremum k f = g.extremum k f' := by
  have hstep : (fun i (_ : i < g.steps) best => k.better best (f (g.point (i + 1)))) =
      fun i (_ : i < g.steps) best => k.better best (f' (g.point (i + 1))) := by
    funext i hi best
    rw [h _ (.point hi)]
  unfold extremum
  rw [h _ .lo, h _ .hi, hstep]

theorem Partition.sum_congr {p : Partition α} {value value' : Nat → α}
    (h : ∀ i < p.parts, value i = value' i) : p.sum value = p.sum value' := by
  have hstep : (fun i (_ : i < p.parts) s => s + value i * p.width) =
      fun i (_ : i < p.parts) s => s + value' i * p.width := by
    funext i hi s
    rw [h i hi]
  unfold sum
  rw [hstep]

/-- **The sums depend on the samples alone.** -/
theorem Plan.sums_congr {p : Plan α} {f f' : α → α} (h : ∀ x, p.Samples x → f x = f' x) :
    p.sums f = p.sums f' := by
  have hr : p.partition.riemann p.fineness.rule f = p.partition.riemann p.fineness.rule f' := by
    refine Partition.sum_congr ?_
    intro i hi
    exact h _ (.rule hi)
  have hd : ∀ k, p.partition.darboux p.fineness.step k f =
      p.partition.darboux p.fineness.step k f' := by
    intro k
    refine Partition.sum_congr ?_
    intro i hi
    refine Grid.extremum_congr ?_ k
    intro x hx
    exact h x (.grid hi hx)
  unfold sums riemann darboux Partition.riemann? Partition.darboux?
  rw [hr, hd .min, hd .max]

theorem or_eq_none_iff {β : Type} {a b : Option β} : (a <|> b) = none ↔ a = none ∧ b = none := by
  cases a <;> simp

theorem fold_orElse_eq_none {β : Type} {n : Nat} (g : Nat → Option β) :
    n.fold (fun i _ found => found <|> g i) none = none ↔ ∀ i < n, g i = none := by
  induction n with
  | zero => simp
  | succ n ih =>
    rw [Nat.fold_succ, or_eq_none_iff, ih]
    constructor
    · rintro ⟨h, hn⟩ i hi
      rcases Nat.lt_succ_iff_lt_or_eq.1 hi with hi | rfl
      · exact h i hi
      · exact hn
    · intro h
      refine ⟨?_, h n (by omega)⟩
      intro i hi
      exact h i (by omega)

theorem Partition.unmet?_eq_none_iff {p : Partition α} {step : α} :
    p.unmet? step = none ↔ ∀ i < p.parts, (p.grid step i).unmet? = none :=
  fold_orElse_eq_none fun i => (p.grid step i).unmet?

theorem Grid.unmet?_eq_none_iff {g : Grid α} (h : Scalar.isPositive g.step = true) :
    g.unmet? = none ↔ Scalar.isFinite g.lo = true ∧ Scalar.isFinite g.hi = true ∧
      Scalar.le g.lo g.hi = true := by
  unfold unmet?
  rw [h]
  cases Scalar.isFinite g.lo <;> cases Scalar.isFinite g.hi <;> cases Scalar.le g.lo g.hi <;> simp

/-- Over ascending ends the sums are taken unless a part cannot be searched. -/
theorem Plan.sums_outcome {p : Plan α} (h : Scalar.le p.lo p.hi = true) (f : α → α) :
    match p.partition.unmet? p.fineness.step with
    | none => ∃ v, p.sums f = .ok v
    | some u => p.sums f = .error u := by
  have hlo : p.partition.lo = p.lo := rfl
  have hhi : p.partition.hi = p.hi := rfl
  unfold sums riemann darboux Partition.riemann? Partition.darboux?
  rw [hlo, hhi, if_pos h, if_pos h, if_pos h]
  cases p.partition.unmet? p.fineness.step with
  | none => exact ⟨_, rfl⟩
  | some u => rfl

/-- The plan of a request whose direction is known. -/
def Plan.directed (s : Fineness α) (start stop : α) : Plan α :=
  let reversed := Scalar.lt stop start
  ⟨if reversed then stop else start, if reversed then start else stop, s, reversed⟩

/-- **What a request has to pass**, in this order, to become a plan. -/
theorem Plan.ofRequest_eq (s : Fineness α) (start stop : α) :
    ofRequest s start stop =
      if !Scalar.isFinite start || !Scalar.isFinite stop then .error (.nonFiniteBound start stop)
      else if Scalar.eq start stop then .error (.degenerateInterval start)
      else match s.check with
        | .error r => .error r
        | .ok _ =>
          let width := (directed s start stop).hi - (directed s start stop).lo
          if !Scalar.isFinite width || !Scalar.isFinite (width / s.step) then
            .error (.intervalTooWide start stop s.step)
          else .ok (directed s start stop) := by
  unfold ofRequest
  split
  · rfl
  split
  · rfl
  cases s.check with
  | error r => rfl
  | ok _ =>
    -- the width and its quotient by the step are looked at together
    by_cases hw : (!Scalar.isFinite ((directed s start stop).hi - (directed s start stop).lo) ||
        !Scalar.isFinite (((directed s start stop).hi - (directed s start stop).lo) / s.step)) =
        true
    · exact (if_pos hw).trans (if_pos hw).symm
    · exact (if_neg hw).trans (if_neg hw).symm

/-- What is known of a request once its plan is made. -/
theorem Plan.of_ofRequest {s : Fineness α} {start stop : α} {p : Plan α}
    (h : ofRequest s start stop = .ok p) :
    Scalar.isFinite start = true ∧ Scalar.isFinite stop = true ∧
      Scalar.eq start stop = false ∧ s.check = .ok () ∧ Scalar.isFinite (p.hi - p.lo) = true ∧
      p = directed s start stop := by
  rw [ofRequest_eq] at h
  -- each check that fails is an error, which is not the outcome
  split at h
  · cases h
  rename_i hfin
  split at h
  · cases h
  rename_i heq
  split at h
  · cases h
  rename_i hc
  dsimp only at h
  split at h
  · cases h
  rename_i hw
  cases h
  simp only [Bool.or_eq_true, Bool.not_eq_true', not_or, Bool.not_eq_false] at hfin heq hw
  exact ⟨hfin.1, hfin.2, Bool.eq_false_iff.2 heq, hc, hw.1, rfl⟩

end Quadrature

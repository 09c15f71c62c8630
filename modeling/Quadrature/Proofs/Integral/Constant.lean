import Quadrature.Proofs.Integral.Outcome

/-!
# Integrals of constants

An expression in which no variable occurs has one value (`Expr.eval_eq_of_not_hasVariable`). Every
search finds that value, so the three sums add up the same products in the same order, in any
arithmetic and whatever is rounded (`integrate_constant`).
-/

namespace Quadrature

variable {α : Type}

/-- **Without a variable** an expression has the same value everywhere. -/
theorem Expr.eval_eq_of_not_hasVariable [Elementary α] {e : Expr α} (h : e.hasVariable = false)
    (x y : α) : e.eval x = e.eval y := by
  induction e with
  | var c => cases h
  | const k => rfl
  | func f e ih =>
    have he : e.hasVariable = false := h
    simp only [eval, ih he]
  | op o l r ihl ihr =>
    obtain ⟨hl, hr⟩ : l.hasVariable = false ∧ r.hasVariable = false := by
      simpa [hasVariable] using h
    simp only [eval, ihl hl, ihr hr]

section Sums

variable [Scalar α]

@[simp] theorem Extremum.better_self (k : Extremum) (c : α) : k.better c c = c := by
  simp [better]

/-- Every search of a constant finds the constant, whether or not it is a number. -/
@[simp] theorem Grid.extremum_constant (g : Grid α) (k : Extremum) (c : α) :
    g.extremum k (fun _ => c) = c := by
  have hfold : ∀ n : ℕ, n.fold (fun _ _ best => k.better best c) c = c := by
    intro n
    induction n with
    | zero => rfl
    | succ n ih => rw [Nat.fold_succ, ih, k.better_self]
  rw [extremum, hfold, k.better_self]

/-- The three sums are the same. -/
structure Sums.Agree (s : Sums α) : Prop where
  lower : s.lower = s.riemann
  upper : s.upper = s.riemann

/-- The three sums of a constant are one sum. -/
theorem Plan.sums_constant {p : Plan α} {c : α} {w : Sums α} (h : p.sums (fun _ => c) = .ok w) :
    w.Agree := by
  have hdarboux : ∀ k, p.partition.darboux p.fineness.step k (fun _ => c) =
      p.partition.sum fun _ => c := by
    intro k
    simp [Partition.darboux]
  rw [of_sums h]
  exact ⟨hdarboux .min, hdarboux .max⟩

/-- Sums that are the same are the same in either direction. -/
theorem Sums.Agree.orient {w : Sums α} (h : w.Agree) (p : Plan α) : (p.orient w).Agree := by
  unfold Plan.orient
  split
  · exact ⟨congrArg (- ·) h.lower, congrArg (- ·) h.upper⟩
  · exact h

end Sums

/-- **Constants.** An expression without a variable has one value, and whenever its integral is
taken the three sums are the same, in whichever direction the interval is given. -/
theorem integrate_constant [Elementary α] {e : Expr α} (h : e.hasVariable = false) :
    (∀ x y, e.eval x = e.eval y) ∧
      ∀ (s : Fineness α) (start stop : α) (v : Sums α),
        integrate s (fun x => e.eval x) start stop = .ok v → v.Agree := by
  have heval := Expr.eval_eq_of_not_hasVariable h
  refine ⟨heval, ?_⟩
  intro s start stop v hv
  obtain ⟨p, w, -, hw, rfl⟩ := exists_plan_of_integrate hv
  have hconst : (fun x => e.eval x) = fun _ => e.eval start := funext fun x => heval x start
  rw [hconst] at hw
  exact (Plan.sums_constant hw).orient p

/-- A difference over three parts, downwards from one to zero: the sums are rounded, all in the same
way, and none is the difference. -/
theorem integrate_difference :
    ∃ v, integrate ⟨3, 0.25, .midpoint⟩
        (fun x => (Expr.op .sub (.const 0.3) (.const 0.1) : Expr Float).eval x) 1 0 = .ok v ∧
      v.Agree ∧ v.riemann ≠ -(0.3 - 0.1) := by
  have h : integrate ⟨3, 0.25, .midpoint⟩
      (fun x => (Expr.op .sub (.const 0.3) (.const 0.1) : Expr Float).eval x) 1 0 =
        .ok ⟨.ofBits 0xBFC9999999999998, .ofBits 0xBFC9999999999998,
          .ofBits 0xBFC9999999999998⟩ := by
    decide +kernel
  exact ⟨_, h, (integrate_constant (by decide)).2 _ _ _ _ h, by decide +kernel⟩

end Quadrature

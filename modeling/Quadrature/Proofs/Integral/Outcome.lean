import Quadrature.Proofs.Integral.Bracket

/-!
# Integrals that are taken

An integral that is taken has a plan and sums behind it (`exists_plan_of_integrate`). The rule by
which the parts are sampled has no part in the checks of a request, nor in the Darboux sums: with
another rule the same request is taken, and only its Riemann sum is another one
(`integrate_withRule`).
-/

namespace Quadrature

variable {α : Type} [Scalar α]

/-- **Behind an integral that is taken** stand a plan and its sums. -/
theorem exists_plan_of_integrate {s : Fineness α} {f : α → α} {start stop : α} {v : Sums α}
    (h : integrate s f start stop = .ok v) :
    ∃ p w, Plan.ofRequest s start stop = .ok p ∧ p.sums f = .ok w ∧ v = p.orient w := by
  cases hp : Plan.ofRequest s start stop with
  | error r =>
    simp only [integrate, hp] at h
    cases h
  | ok p =>
    rw [integrate_of_plan hp] at h
    cases hw : p.sums f with
    | error u =>
      rw [hw] at h
      cases h
    | ok w =>
      rw [hw] at h
      exact ⟨p, w, rfl, hw, (Except.ok.inj h).symm⟩

theorem integrate_of_sums {s : Fineness α} {f : α → α} {start stop : α} {p : Plan α} {w : Sums α}
    (hp : Plan.ofRequest s start stop = .ok p) (hw : p.sums f = .ok w) :
    integrate s f start stop = .ok (p.orient w) := by
  rw [integrate_of_plan hp, hw]
  rfl

/-! ### Another rule -/

/-- The same settings with another rule. -/
def Fineness.withRule (s : Fineness α) (r : Rule) : Fineness α := { s with rule := r }

namespace Plan

variable {s : Fineness α} {f : α → α} {start stop : α} {p : Plan α} {w : Sums α}

/-- The same plan with another rule. -/
def withRule (p : Plan α) (r : Rule) : Plan α := { p with fineness := p.fineness.withRule r }

theorem ofRequest_withRule (h : ofRequest s start stop = .ok p) (r : Rule) :
    ofRequest (s.withRule r) start stop = .ok (p.withRule r) := by
  have hcheck : (s.withRule r).check = s.check := rfl
  have hdirected : directed (s.withRule r) start stop = (directed s start stop).withRule r := rfl
  have hlo : ∀ q : Plan α, (q.withRule r).lo = q.lo := fun _ => rfl
  have hhi : ∀ q : Plan α, (q.withRule r).hi = q.hi := fun _ => rfl
  have hstep : (s.withRule r).step = s.step := rfl
  rw [ofRequest_eq] at h ⊢
  rw [hcheck, hdirected]
  simp only [hlo, hhi, hstep]
  -- what has passed a check passes it again
  split at h
  · cases h
  rename_i hfin
  rw [if_neg hfin]
  split at h
  · cases h
  rename_i heq
  rw [if_neg heq]
  split at h
  · cases h
  dsimp only at h ⊢
  split at h
  · cases h
  rename_i hw
  rw [if_neg hw, Except.ok.inj h]

theorem sums_withRule (h : p.sums f = .ok w) (r : Rule) :
    (p.withRule r).sums f = .ok { w with riemann := p.partition.riemann r f } := by
  have hw := of_sums h
  have hpartition : (p.withRule r).partition = p.partition := rfl
  have hrule : (p.withRule r).fineness.rule = r := rfl
  have hstep : (p.withRule r).fineness.step = p.fineness.step := rfl
  simp only [sums, riemann, darboux, Partition.riemann?, Partition.darboux?, hpartition, hrule,
    hstep] at h ⊢
  by_cases hle : Scalar.le p.partition.lo p.partition.hi = true
  · simp only [hle, if_true] at h ⊢
    cases hu : p.partition.unmet? p.fineness.step with
    | none =>
      rw [hw]
      rfl
    | some u =>
      rw [hu] at h
      cases h
  · simp only [hle] at h
    cases h

end Plan

/-- **With another rule** an integral is taken as well; its Darboux sums are the same. -/
theorem integrate_withRule {s : Fineness α} {f : α → α} {start stop : α} {p : Plan α} {w : Sums α}
    (hp : Plan.ofRequest s start stop = .ok p) (hw : p.sums f = .ok w) (r : Rule) :
    integrate (s.withRule r) f start stop =
      .ok (p.orient { w with riemann := p.partition.riemann r f }) := by
  have horient : (p.withRule r).orient = p.orient := rfl
  rw [← horient]
  exact integrate_of_sums (Plan.ofRequest_withRule hp r) (Plan.sums_withRule hw r)

end Quadrature

import Mathlib.Order.Bounds.Basic
import Quadrature.Proofs.Rpn.Postfix

/-!
# Compiling without a bound

What the bound on the stack does to a compilation, compared with the same compilation on a stack
that is never full. As long as the bound is not exceeded the two go through the same stacks; where
it is exceeded first, nothing that comes later is looked at.

* `stepUnbounded`, `runUnbounded`, `compileUnbounded`: the compilation without a bound.
* `heights`, `peak`: the numbers of operands that are pending in its course, and the largest one,
  `peak_le`: which is no larger than the number of tokens.
* `Operands.run_eq`: **what the bound does**, over every list of tokens.
* `compile_ne_stackOverflow`: with room for every token nothing overflows.
* `compile_transparent`: **it overflows or it does not show.**
-/

namespace Quadrature

variable {α : Type} [Literal α]

/-! ### The compilation without a bound -/

/-- The pending trees after one token, the last one pushed first. -/
def stepUnbounded (x : Char) (es : List (Expr α)) (position : ℕ) (t : String) :
    Except CompileError (List (Expr α)) :=
  match (Token.read? x t : Option (Token α)) with
  | none => .error (.invalidToken t position)
  | some k =>
    match k.build es with
    | none => .error (.stackUnderflow t position)
    | some es => .ok es

/-- The pending trees after a list of tokens, the first of which stands at `position`. -/
def runUnbounded (x : Char) (es : List (Expr α)) (position : ℕ) :
    List String → Except CompileError (List (Expr α))
  | [] => .ok es
  | t :: ts => (stepUnbounded x es position t).bind fun es => runUnbounded x es (position + 1) ts

/-- The expression that a token list writes. -/
def compileUnbounded (x : Char) (ts : List String) : Except CompileError (Expr α) :=
  (runUnbounded x [] 0 ts).bind fun es => (⟨es, es.length⟩ : Operands α).finish

/-- The numbers of trees that are pending in the course of a compilation, up to its end or its first
failure. -/
def heights (x : Char) (es : List (Expr α)) (position : ℕ) (ts : List String) : Set ℕ :=
  {n | ∃ p, ∃ es' : List (Expr α), runUnbounded x es position (ts.take p) = .ok es' ∧
    es'.length = n}

/-- The largest of these numbers. -/
def peak (x : Char) (es : List (Expr α)) (position : ℕ) : List String → ℕ
  | [] => es.length
  | t :: ts =>
    match stepUnbounded x es position t with
    | .error _ => es.length
    | .ok es' => max es.length (peak x es' (position + 1) ts)

variable {x : Char} {es : List (Expr α)} {position : ℕ} {t : String} {ts : List String}

theorem length_le_peak : es.length ≤ peak x es position ts := by
  cases ts with
  | nil => exact Nat.le_refl _
  | cons t ts =>
    unfold peak
    split
    · exact Nat.le_refl _
    · exact Nat.le_max_left _ _

omit [Literal α] in
/-- A token leaves one tree more than it found, at most. -/
theorem Token.length_build_le {k : Token α} {es es' : List (Expr α)} (h : k.build es = some es') :
    es'.length ≤ es.length + 1 := by
  unfold Token.build at h
  split at h
  case h_5 => cases h
  all_goals
    cases h
    simp only [List.length_cons]
    omega

/-- **Each token raises the stack by one tree at most.** -/
theorem peak_le : peak x es position ts ≤ es.length + ts.length := by
  induction ts generalizing es position with
  | nil => exact Nat.le_refl _
  | cons t ts ih =>
    unfold peak
    split
    · exact Nat.le_add_right _ _
    · rename_i es' hstep
      have hrest : peak x es' (position + 1) ts ≤ es'.length + ts.length := ih
      have hlength : es'.length ≤ es.length + 1 := by
        unfold stepUnbounded at hstep
        split at hstep
        · cases hstep
        split at hstep
        · cases hstep
        · rename_i hbuild
          obtain rfl := Except.ok.inj hstep
          exact Token.length_build_le hbuild
      rw [List.length_cons]
      exact Nat.max_le.2 ⟨by omega, by omega⟩

theorem mem_heights_cons {n : ℕ} : n ∈ heights x es position (t :: ts) ↔
    n = es.length ∨
      ∃ es', stepUnbounded x es position t = .ok es' ∧ n ∈ heights x es' (position + 1) ts := by
  constructor
  · rintro ⟨p, es', hrun, rfl⟩
    cases p with
    | zero =>
      cases hrun
      exact .inl rfl
    | succ p =>
      rw [List.take_succ_cons, runUnbounded] at hrun
      cases hstep : stepUnbounded x es position t with
      | error u =>
        rw [hstep] at hrun
        cases hrun
      | ok es₁ =>
        rw [hstep] at hrun
        exact .inr ⟨es₁, rfl, p, es', hrun, rfl⟩
  · rintro (rfl | ⟨es₁, hstep, p, es', hrun, rfl⟩)
    · exact ⟨0, es, rfl, rfl⟩
    · refine ⟨p + 1, es', ?_, rfl⟩
      rw [List.take_succ_cons, runUnbounded, hstep]
      exact hrun

/-- **The peak is the largest height.** -/
theorem isGreatest_peak : IsGreatest (heights x es position ts) (peak x es position ts) := by
  induction ts generalizing es position with
  | nil =>
    constructor
    · exact ⟨0, es, rfl, rfl⟩
    · rintro n ⟨p, es', hrun, rfl⟩
      rw [List.take_nil] at hrun
      cases hrun
      exact Nat.le_refl _
  | cons t ts ih =>
    cases hstep : stepUnbounded x es position t with
    | error u =>
      have hpeak : peak x es position (t :: ts) = es.length := by rw [peak, hstep]
      rw [hpeak]
      constructor
      · exact mem_heights_cons.2 (.inl rfl)
      · intro n hn
        rcases mem_heights_cons.1 hn with rfl | ⟨es', hstep', -⟩
        · exact Nat.le_refl _
        · rw [hstep] at hstep'
          cases hstep'
    | ok es₁ =>
      have hpeak : peak x es position (t :: ts) =
          max es.length (peak x es₁ (position + 1) ts) := by rw [peak, hstep]
      obtain ⟨hmem, hbound⟩ : IsGreatest (heights x es₁ (position + 1) ts)
          (peak x es₁ (position + 1) ts) := ih
      rw [hpeak]
      constructor
      · rcases Nat.le_total es.length (peak x es₁ (position + 1) ts) with hle | hle
        · rw [max_eq_right hle]
          exact mem_heights_cons.2 (.inr ⟨es₁, hstep, hmem⟩)
        · rw [max_eq_left hle]
          exact mem_heights_cons.2 (.inl rfl)
      · intro n hn
        rcases mem_heights_cons.1 hn with rfl | ⟨es', hstep', hn'⟩
        · exact Nat.le_max_left _ _
        · rw [hstep] at hstep'
          cases hstep'
          exact Nat.le_trans (hbound hn') (Nat.le_max_right _ _)

/-! ### What the bound does -/

namespace Operands

variable {capacity : ℕ}

/-- **One token.** -/
theorem step_eq_unbounded (es : List (Expr α)) (position : ℕ) (t : String) :
    (⟨es, capacity⟩ : Operands α).step ⟨x, capacity⟩ position t =
      (stepUnbounded x es position t).bind fun es' =>
        if es'.length ≤ capacity then .ok ⟨es', capacity⟩ else .error (.stackOverflow capacity) := by
  rw [step_eq, stepUnbounded]
  cases (Token.read? x t : Option (Token α)) with
  | none => rfl
  | some k => cases hbuild : k.build es <;> simp [hbuild, Except.bind]

/-- **A whole list**, from a stack that is not too high already. -/
theorem run_eq (hes : es.length ≤ capacity) :
    (⟨es, capacity⟩ : Operands α).run ⟨x, capacity⟩ position ts =
      if peak x es position ts ≤ capacity then
        (runUnbounded x es position ts).map fun es' => ⟨es', capacity⟩
      else .error (.stackOverflow capacity) := by
  induction ts generalizing es position with
  | nil => exact (if_pos hes).symm
  | cons t ts ih =>
    rw [run_cons, step_eq_unbounded, peak, runUnbounded]
    cases stepUnbounded x es position t with
    | error u => exact (if_pos hes).symm
    | ok es' =>
      dsimp only [Except.bind]
      by_cases hfit : es'.length ≤ capacity
      · rw [if_pos hfit]
        dsimp only
        rw [ih hfit]
        by_cases hpeak : peak x es' (position + 1) ts ≤ capacity
        · rw [if_pos hpeak, if_pos (Nat.max_le.2 ⟨hes, hpeak⟩)]
        · rw [if_neg hpeak, if_neg fun h => hpeak (Nat.max_le.1 h).2]
      · -- it overflows here, and the peak is no lower
        have hpeak : ¬ max es.length (peak x es' (position + 1) ts) ≤ capacity := fun h =>
          hfit (Nat.le_trans length_le_peak (Nat.max_le.1 h).2)
        rw [if_neg hfit, if_neg hpeak]

omit [Literal α] in
/-- What is left at the end does not depend on the bound. -/
theorem finish_eq (es : List (Expr α)) (capacity capacity' : ℕ) :
    (⟨es, capacity⟩ : Operands α).finish = (⟨es, capacity'⟩ : Operands α).finish := by
  rcases es with _ | ⟨e, _ | ⟨e', es⟩⟩ <;> rfl

end Operands

/-- **A compilation within its bound and one beyond it.** -/
theorem compileTokens_eq_unbounded (x : Char) (capacity : ℕ) (ts : List String) :
    compileTokens (α := α) ⟨x, capacity⟩ ts =
      if peak (α := α) x [] 0 ts ≤ capacity then compileUnbounded x ts
      else .error (.stackOverflow capacity) := by
  have hnil : ([] : List (Expr α)).length ≤ capacity := Nat.zero_le _
  unfold compileTokens Operands.complete Operands.empty
  rw [Operands.run_eq hnil]
  split
  · unfold compileUnbounded
    cases runUnbounded (α := α) x [] 0 ts with
    | error u => rfl
    | ok es => exact Operands.finish_eq es capacity es.length
  · rfl

/-- Without a bound nothing overflows. -/
theorem runUnbounded_ne_stackOverflow (n : ℕ) :
    runUnbounded x es position ts ≠ .error (.stackOverflow n) := by
  induction ts generalizing es position with
  | nil =>
    intro h
    cases h
  | cons t ts ih =>
    rw [runUnbounded, stepUnbounded]
    intro h
    split at h
    · cases h
    split at h
    · cases h
    exact ih h

theorem compileUnbounded_ne_stackOverflow (x : Char) (ts : List String) (n : ℕ) :
    compileUnbounded (α := α) x ts ≠ .error (.stackOverflow n) := by
  intro h
  unfold compileUnbounded at h
  cases hrun : runUnbounded (α := α) x [] 0 ts with
  | error u =>
    rw [hrun] at h
    cases h
    exact runUnbounded_ne_stackOverflow n hrun
  | ok es =>
    rw [hrun] at h
    rcases es with _ | ⟨e, _ | ⟨e', es⟩⟩ <;> cases h

/-- **With room for every token nothing overflows**, whether or not the stack can be set aside. -/
theorem compile_ne_stackOverflow {c : Compiler} (h : ts.length ≤ c.capacity) (n : ℕ) :
    compile (α := α) c ts ≠ .error (.rejected (.stackOverflow n)) := by
  by_cases hc : c.capacity ≤ Operands.maxCapacity
  · have hpeak : peak (α := α) c.symbol [] 0 ts ≤ c.capacity := by
      refine Nat.le_trans peak_le ?_
      rwa [List.length_nil, Nat.zero_add]
    rw [compile_eq c ts hc, compileTokens_eq_unbounded, if_pos hpeak]
    intro hoverflow
    cases hresult : compileUnbounded (α := α) c.symbol ts with
    | ok e =>
      rw [hresult] at hoverflow
      cases hoverflow
    | error u =>
      rw [hresult] at hoverflow
      obtain rfl := Failure.rejected.inj (Except.error.inj hoverflow)
      exact compileUnbounded_ne_stackOverflow c.symbol ts n hresult
  · rw [compile_of_maxCapacity_lt (Nat.not_le.1 hc)]
    intro hoverflow
    cases hoverflow

/-- **The bound overflows or does not show.** On a stack that can be set aside, a capacity of no less
than the largest number of operands that are ever pending gives the tree, or the failure with its
token, position or count, of the compilation without a bound, which never overflows; every smaller
capacity overflows, whatever comes later in the list. So a larger capacity changes the outcome of an
overflow and no other. A stack that cannot be set aside stops the program. -/
theorem compile_transparent (x : Char) (ts : List String) :
    ∃ height, IsGreatest (heights (α := α) x [] 0 ts) height ∧
      (∀ n, compileUnbounded (α := α) x ts ≠ .error (.stackOverflow n)) ∧
      (∀ c ≤ Operands.maxCapacity,
        (height ≤ c →
          compile (α := α) ⟨x, c⟩ ts = Failure.ofRejection (compileUnbounded x ts)) ∧
        (c < height → compile (α := α) ⟨x, c⟩ ts = .error (.rejected (.stackOverflow c)))) ∧
      (∀ c c', c ≤ c' → c' ≤ Operands.maxCapacity →
        compile (α := α) ⟨x, c⟩ ts ≠ .error (.rejected (.stackOverflow c)) →
        compile (α := α) ⟨x, c'⟩ ts = compile ⟨x, c⟩ ts) ∧
      ∀ c, Operands.maxCapacity < c → compile (α := α) ⟨x, c⟩ ts = .error (.unmet ⟨c⟩) := by
  have hcompile : ∀ c ≤ Operands.maxCapacity, compile (α := α) ⟨x, c⟩ ts =
      Failure.ofRejection (if peak (α := α) x [] 0 ts ≤ c then compileUnbounded x ts
        else .error (.stackOverflow c)) := by
    intro c hc
    rw [compile_eq ⟨x, c⟩ ts hc, compileTokens_eq_unbounded]
  refine ⟨_, isGreatest_peak, compileUnbounded_ne_stackOverflow x ts, ?_, ?_, ?_⟩
  · intro c hc
    rw [hcompile c hc]
    constructor
    · intro hle
      rw [if_pos hle]
    · intro hlt
      rw [if_neg (Nat.not_le.2 hlt)]
      rfl
  · intro c c' hle hc' hne
    rw [hcompile c (Nat.le_trans hle hc')] at hne ⊢
    rw [hcompile c' hc']
    by_cases hpeak : peak (α := α) x [] 0 ts ≤ c
    · rw [if_pos hpeak, if_pos (Nat.le_trans hpeak hle)]
    · rw [if_neg hpeak] at hne
      exact absurd rfl hne
  · intro c hc
    exact compile_of_maxCapacity_lt hc

/-- Two operands, an operator and a text that is no token: one place overflows at once, and two places
find the text where a thousand do. -/
theorem compile_transparent_difference :
    compile (α := Float) ⟨'x', 1⟩ ["x", "2", "-", "%"] = .error (.rejected (.stackOverflow 1)) ∧
      compile (α := Float) ⟨'x', 2⟩ ["x", "2", "-", "%"] =
        .error (.rejected (.invalidToken "%" 3)) ∧
      compile (α := Float) ⟨'x', 1000⟩ ["x", "2", "-", "%"] =
        .error (.rejected (.invalidToken "%" 3)) ∧
      compile (α := Float) ⟨'x', Operands.maxCapacity + 1⟩ ["x", "2", "-", "%"] =
        .error (.unmet ⟨Operands.maxCapacity + 1⟩) := by
  obtain ⟨height, hheight, -, hbound, hlarger, hunmet⟩ :=
    compile_transparent (α := Float) 'x' ["x", "2", "-", "%"]
  obtain rfl : height = 2 := hheight.unique isGreatest_peak
  have htwo : compile (α := Float) ⟨'x', 2⟩ ["x", "2", "-", "%"] =
      .error (.rejected (.invalidToken "%" 3)) := by
    decide +kernel
  refine ⟨(hbound 1 (by decide)).2 (by decide), htwo, ?_, hunmet _ (Nat.lt_succ_self _)⟩
  rw [hlarger 2 1000 (by decide) (by decide) (by rw [htwo]; decide), htwo]

/-- With a capacity of a whole machine word the variable alone is not compiled, though it needs one
place. -/
theorem compile_differs_wordCapacity :
    IsGreatest (heights (α := Float) 'x' [] 0 ["x"]) 1 ∧ 1 ≤ UInt64.size - 1 ∧
      compileUnbounded (α := Float) 'x' ["x"] = .ok (.var 'x') ∧
      compile (α := Float) ⟨'x', UInt64.size - 1⟩ ["x"] ≠
        Failure.ofRejection (compileUnbounded 'x' ["x"]) := by
  refine ⟨?_, by decide, by decide +kernel, by decide +kernel⟩
  have hpeak : peak (α := Float) 'x' [] 0 ["x"] = 1 := by decide +kernel
  rw [← hpeak]
  exact isGreatest_peak

end Quadrature

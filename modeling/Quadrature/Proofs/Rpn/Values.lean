import Quadrature.Proofs.Rpn.Postfix

/-!
# Running tokens on numbers

A token list can also be run like the keys of a pocket calculator, on a stack of numbers and without
any tree. Wherever the list compiles, both ways have the same value (`runValues_eq_eval`).

The link is one step: the values of the pending trees are the stack of numbers, before and after
every token (`Token.onValues_build`).
-/

namespace Quadrature

variable {α : Type} [Elementary α] {c : Compiler} {x : α}

/-- The numbers after a token, the last one pushed first. An operator takes its right operand
first. -/
def Token.onValues (x : α) : Token α → List α → Option (List α)
  | var _, s => some (x :: s)
  | const k, s => some (k :: s)
  | func f, a :: s => some (f.apply a :: s)
  | op o, b :: a :: s => some (o.apply a b :: s)
  | _, _ => none

/-- The numbers after a token list, from left to right, `v` being the name of the variable and `x`
its value. -/
def runValues [Literal α] (v : Char) (x : α) (s : List α) : List String → Option (List α)
  | [] => some s
  | t :: ts => do
    let k ← Token.read? v t
    let s ← k.onValues x s
    runValues v x s ts

/-- **One token** does to the values of the pending trees what it does to the trees. -/
theorem Token.onValues_build {k : Token α} {es es' : List (Expr α)} (h : k.build es = some es') :
    k.onValues x (es.map (Expr.eval x)) = some (es'.map (Expr.eval x)) := by
  unfold Token.build at h
  split at h
  case h_5 => cases h
  all_goals
    cases h
    rfl

/-- **A token list** does so too. -/
theorem runValues_of_run [Literal α] {s s' : Operands α} {position : Nat} {ts : List String}
    (h : s.run c position ts = .ok s') :
    runValues c.symbol x (s.pending.map (Expr.eval x)) ts =
      some (s'.pending.map (Expr.eval x)) := by
  induction ts generalizing s position with
  | nil =>
    cases h
    rfl
  | cons t ts ih =>
    obtain ⟨s₁, hs, hr⟩ := Operands.run_cons_ok h
    obtain ⟨k, hk, hb, -⟩ := Operands.step_ok hs
    -- the same class, and then the same operands
    unfold runValues
    rw [Token.read?_eq_some_iff.2 hk, Option.bind_eq_bind, Option.bind_some,
      Token.onValues_build hb, Option.bind_eq_bind, Option.bind_some]
    exact ih hr

/-- **Compiling and evaluating is running the tokens.** A token list that compiles leaves exactly
one number, the value of the tree. -/
theorem runValues_eq_eval [Literal α] {ts : List String} {e : Expr α} (h : compile c ts = .ok e)
    (x : α) : runValues c.symbol x [] ts = some [e.eval x] := by
  have hc := (compile_eq_ok_iff.1 h).2
  obtain ⟨s, hr, hf⟩ := Operands.run_of_complete hc
  have := runValues_of_run (x := x) hr
  rwa [hf] at this

/-- The operands of a difference are not exchanged. -/
theorem runValues_difference :
    compile ⟨'x', 2⟩ ["x", "2", "-"] = .ok (.op .sub (.var 'x') (.const (2 : Float))) ∧
      runValues 'x' 5 [] ["x", "2", "-"] = some [(3 : Float)] := by
  have hok : compile ⟨'x', 2⟩ ["x", "2", "-"] = .ok (.op .sub (.var 'x') (.const (2 : Float))) := by
    decide +kernel
  have hv : (Expr.op .sub (.var 'x') (.const (2 : Float))).eval 5 = 3 := by decide +kernel
  have hr := runValues_eq_eval hok 5
  rw [hv] at hr
  exact ⟨hok, hr⟩

end Quadrature

import Quadrature.Proofs.Decimal.ReadBack
import Quadrature.Proofs.Rpn.RoundTrip

/-!
# Expressions over doubles

The texts of doubles can stand among the tokens (`LawfulLiteral Float`), so what is said of
rendering and compiling over any numbers holds for the numbers that the program computes with.

`reparse_rpn`: **the reverse Polish form of an expression compiles to that expression**, whatever
doubles it holds.
-/

namespace Quadrature

open Text Decimal

theorem readDouble?_funcName (f : Func) : readDouble? f.name = none := by
  cases f <;> decide

instance : LawfulLiteral Float where
  read?_text := readDouble?_text
  text_ne_empty k := (text_word k).1
  not_blank k := (text_word k).2
  isDigit_of_read? := isDigit_of_readDouble?
  read?_name := readDouble?_funcName

/-- **Compiling undoes rendering.** Over a variable that is neither a blank nor a digit nor spelt
like an operator of the tree, the text of a tree compiles to the tree, constants that are not a
number included, exactly on the stacks with room for what the tree needs, and overflows the
smaller ones; beyond what can be set aside nothing is compiled. So whatever was compiled is found
again under the same settings. -/
theorem reparse_rpn {x : Char} (hb : isBlank x = false) (hd : x.isDigit = false) (n : ℕ) :
    (∀ e : Expr Float, e.Over x →
      compile ⟨x, n⟩ (rpnTokens e.rpn) =
        if Operands.maxCapacity < n then .error (.unmet ⟨n⟩)
        else if e.need ≤ n then .ok e
        else .error (.rejected (.stackOverflow n))) ∧
      ∀ (ts : List String) (e : Expr Float), compile ⟨x, n⟩ ts = .ok e →
        compile ⟨x, n⟩ (rpnTokens e.rpn) = .ok e := by
  constructor
  · intro e he
    exact compile_rpn hb hd he n
  · intro ts e h
    exact compile_rpn_of_compile hb hd h

/-- The difference of the variable and a constant that is not a number needs two operands. -/
theorem reparse_difference :
    isBlank 'x' = false ∧ 'x'.isDigit = false ∧
      (Expr.op .sub (.var 'x') (.const (0.0 / 0.0 : Float))).Over 'x' ∧
      compile (α := Float) ⟨'x', 2⟩ (rpnTokens (Expr.op .sub (.var 'x') (.const (0.0 / 0.0 : Float))).rpn) =
        .ok (.op .sub (.var 'x') (.const (0.0 / 0.0))) ∧
      compile (α := Float) ⟨'x', 1⟩ (rpnTokens (Expr.op .sub (.var 'x') (.const (0.0 / 0.0 : Float))).rpn) =
        .error (.rejected (.stackOverflow 1)) := by
  have hover : (Expr.op .sub (.var 'x') (.const (0.0 / 0.0 : Float))).Over 'x' :=
    ⟨by decide, rfl, trivial⟩
  have htwo := (reparse_rpn (x := 'x') (by decide) (by decide) 2).1 _ hover
  have hone := (reparse_rpn (x := 'x') (by decide) (by decide) 1).1 _ hover
  rw [if_neg (by decide), if_pos (by decide)] at htwo
  rw [if_neg (by decide), if_neg (by decide)] at hone
  exact ⟨by decide, by decide, hover, htwo, hone⟩

/-- With a capacity of a whole machine word the text of the variable, whose tree needs one operand,
is not compiled. -/
theorem reparse_wordCapacity :
    isBlank 'x' = false ∧ 'x'.isDigit = false ∧ (.var 'x' : Expr Float).Over 'x' ∧
      (.var 'x' : Expr Float).need ≤ UInt64.size - 1 ∧
      compile (α := Float) ⟨'x', UInt64.size - 1⟩ (rpnTokens (.var 'x' : Expr Float).rpn) ≠ .ok (.var 'x') := by
  refine ⟨by decide, by decide, rfl, by decide, by decide +kernel⟩

end Quadrature

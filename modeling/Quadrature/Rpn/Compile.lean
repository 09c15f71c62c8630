import Quadrature.Failure
import Quadrature.Log
import Quadrature.Rpn.Operands
import Quadrature.Text.Blank

/-!
# Compiling reverse Polish notation

A token is, in this order, the variable, an operator, the name of a function or a number. Operands
are pushed; an operator takes the right operand first and the left one second.

* `Token.read?`: the class of a token.
* `compileTokens`: the expression that a token list writes, on a stack of bounded height.
* `compile`: the same for callers that set the stack aside first, which an excessive capacity
  makes impossible.
-/

namespace Quadrature

/-- What the compiler has to know beside the tokens. -/
structure Compiler where
  /-- The name of the variable. -/
  symbol : Char
  /-- The number of operands that may be pending. -/
  capacity : Nat
deriving DecidableEq

namespace Compiler

/-- The capacity where none is given. -/
def defaultCapacity : Nat := 50

/-- The variable `x` and fifty pending operands. -/
def default : Compiler := ⟨'x', defaultCapacity⟩

end Compiler

variable {α : Type} [Literal α]

/-- The class of a token: the first of variable, operator, function and number that it is. -/
def Token.read? (x : Char) (t : String) : Option (Token α) :=
  if t = String.singleton x then some (.var x)
  else if let some o := Op.ofName? t then some (.op o)
  else if let some f := Func.ofName? t then some (.func f)
  else (Literal.read? t).map .const

/-- The operands after one token. -/
def Operands.step (c : Compiler) (s : Operands α) (position : Nat) (t : String) :
    Except CompileError (Operands α) :=
  match Token.read? c.symbol t with
  | some (.var x) => s.push (.var x)
  | some (.const k) => s.push (.const k)
  | some (.func f) => do
    let (e, s) ← s.pop t position
    s.push (.func f e)
  | some (.op o) => do
    let (r, s) ← s.pop t position
    let (l, s) ← s.pop t position
    s.push (.op o l r)
  | none => .error (.invalidToken t position)

/-- The operands after a list of tokens, the first of which stands at `position`. -/
def Operands.run (c : Compiler) (s : Operands α) (position : Nat) :
    List String → Except CompileError (Operands α)
  | [] => .ok s
  | t :: ts => do
    let s ← s.step c position t
    s.run c (position + 1) ts

/-- The only operand that is left after a list of tokens. -/
def Operands.complete (c : Compiler) (s : Operands α) (ts : List String) :
    Except CompileError (Expr α) := do
  let s ← s.run c 0 ts
  s.finish

/-- The expression that a token list writes. -/
def compileTokens (c : Compiler) (ts : List String) : Except CompileError (Expr α) :=
  (Operands.empty c.capacity).complete c ts

/-- The expression that a token list writes, on a stack whose room is set aside first. -/
def compile (c : Compiler) (ts : List String) :
    Except (Failure CompileError CapacityOverflow) (Expr α) :=
  match Operands.reserve c.capacity with
  | .error p => .error (.unmet p)
  | .ok s => Failure.ofRejection (s.complete c ts)

/-- Where the room can be set aside, it makes no difference. -/
theorem compile_eq (c : Compiler) (ts : List String) (h : c.capacity ≤ Operands.maxCapacity) :
    compile c ts = Failure.ofRejection (compileTokens (α := α) c ts) := by
  simp [compile, Operands.reserve, h, compileTokens]

/-- The tokens of a text, separated by blanks. -/
def rpnTokens (text : String) : List String := (Text.words text.toList).map String.ofList

/-- The outcome of a compilation and what is logged about it: a line if it succeeds. -/
def compileLogged (c : Compiler) (ts : List String) :
    Except (Failure CompileError CapacityOverflow) (Expr α) × List Log.Line :=
  match compile c ts with
  | .ok e =>
    (.ok e, [Log.debug s!"compiled {ts.length} tokens into {e.infixText} ({e.size} nodes)"])
  | .error f => (.error f, [])

/-- The log line when an expression is given up. -/
def releasedLine (e : Expr α) : Log.Line :=
  Log.debug s!"releasing expression tree of {e.size} nodes"

end Quadrature

import Quadrature.Expr.Basic

/-!
# The stack of pending operands

While a token list is compiled, the subtrees that still wait for an operator lie on a stack of
bounded height. A push beyond the bound and a pop from an empty stack are compile errors, and at
the end exactly one tree must be left.

* `Operands.push`, `Operands.pop`, `Operands.finish`: the three operations.
* `Operands.reserve`: an empty stack, unless its room exceeds what can be set aside.
-/

namespace Quadrature

/-- Why a token list is not compiled. Positions count tokens from zero. -/
inductive CompileError where
  | invalidToken (token : String) (position : Nat)
  | stackUnderflow (token : String) (position : Nat)
  | stackOverflow (capacity : Nat)
  | trailingOperands (count : Nat)
  | emptyExpression
deriving DecidableEq

/-- The text of a compile error. -/
def CompileError.message : CompileError → String
  | invalidToken t p => s!"invalid token '{t}' at position {p}"
  | stackUnderflow t p => s!"stack underflow: '{t}' at position {p} has not enough operands"
  | stackOverflow c => s!"stack overflow: expression needs more than {c} pending operands"
  | trailingOperands n => s!"{n} operands left on the stack, expected exactly one"
  | emptyExpression => "empty expression"

/-- Subtrees that wait for an operator, the last one pushed first. -/
structure Operands (α : Type) where
  pending : List (Expr α)
  capacity : Nat

namespace Operands

variable {α : Type}

/-- An empty stack. -/
def empty (capacity : Nat) : Operands α := ⟨[], capacity⟩

/-- The number of pending operands. -/
def size (s : Operands α) : Nat := s.pending.length

/-- Whether no operand is pending. -/
def isEmpty (s : Operands α) : Bool := s.pending.isEmpty

/-- One more operand, unless the stack is full. -/
def push (s : Operands α) (e : Expr α) : Except CompileError (Operands α) :=
  if s.size < s.capacity then .ok ⟨e :: s.pending, s.capacity⟩
  else .error (.stackOverflow s.capacity)

/-- The operand pushed last and the others; the token and its position, which asked for the
operand, go into the error. -/
def pop (s : Operands α) (token : String) (position : Nat) :
    Except CompileError (Expr α × Operands α) :=
  match s.pending with
  | e :: rest => .ok (e, ⟨rest, s.capacity⟩)
  | [] => .error (.stackUnderflow token position)

/-- The only operand left. -/
def finish (s : Operands α) : Except CompileError (Expr α) :=
  match s.pending with
  | [] => .error .emptyExpression
  | [e] => .ok e
  | es => .error (.trailingOperands es.length)

/-- A stack takes 24 bytes for every operand that it has room for, and no more than `2 ^ 63 - 1`
bytes can be set aside. -/
def maxCapacity : Nat := 9223372036854775807 / 24

end Operands

/-- A stack with room for this many operands cannot be set aside. -/
structure CapacityOverflow where
  capacity : Nat
deriving DecidableEq

/-- The text of the failure. -/
def CapacityOverflow.message (_ : CapacityOverflow) : String := "capacity overflow"

/-- An empty stack whose room is set aside at once. -/
def Operands.reserve {α : Type} (capacity : Nat) : Except CapacityOverflow (Operands α) :=
  if capacity ≤ Operands.maxCapacity then .ok (Operands.empty capacity) else .error ⟨capacity⟩

end Quadrature

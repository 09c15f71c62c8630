import Quadrature.Scalar

/-!
# Expressions in one variable

An expression is a tree: variables and constants are leaves, a function has one operand and an
operator two. The type of the constants is a parameter.

* `Expr.eval`: the value for a value of the variable.
* `Expr.infixText`: the fully parenthesised text.
* `Expr.postorder`: the nodes, operands before what is applied to them and left before right.
* `Expr.rpn`: their texts in that order, the form that the compiler reads.
-/

namespace Quadrature

/-- The functions of one operand; `tg` is the tangent and `ctg` its reciprocal. -/
inductive Func where
  | sin | cos | tg | ctg | ln | exp
deriving DecidableEq

/-- The operators of two operands. -/
inductive Op where
  | add | sub | mul | div | pow
deriving DecidableEq

namespace Func

/-- Every function. -/
def all : List Func := [sin, cos, tg, ctg, ln, exp]

/-- The name of a function. -/
def name : Func → String
  | sin => "sin"
  | cos => "cos"
  | tg => "tg"
  | ctg => "ctg"
  | ln => "ln"
  | exp => "exp"

/-- The function with exactly this name. -/
def ofName? (s : String) : Option Func := all.find? fun f => f.name == s

@[simp] theorem ofName?_name (f : Func) : ofName? f.name = some f := by
  cases f <;> decide

/-- The value of a function. -/
@[specialize] def apply {α : Type} [Elementary α] : Func → α → α
  | sin, x => Elementary.sin x
  | cos, x => Elementary.cos x
  | tg, x => Elementary.tan x
  | ctg, x => Scalar.ofNat 1 / Elementary.tan x
  | ln, x => Elementary.ln x
  | exp, x => Elementary.exp x

end Func

namespace Op

/-- Every operator. -/
def all : List Op := [add, sub, mul, div, pow]

/-- The symbol of an operator. -/
def symbol : Op → Char
  | add => '+'
  | sub => '-'
  | mul => '*'
  | div => '/'
  | pow => '^'

/-- The operator with this symbol. -/
def ofSymbol? (c : Char) : Option Op := all.find? fun o => o.symbol == c

@[simp] theorem ofSymbol?_symbol (o : Op) : ofSymbol? o.symbol = some o := by
  cases o <;> rfl

/-- The text of an operator, its symbol. -/
def name (o : Op) : String := String.singleton o.symbol

/-- The operator with exactly this text. -/
def ofName? (s : String) : Option Op :=
  match s.toList with
  | [c] => ofSymbol? c
  | _ => none

/-- The value of an operator. -/
@[specialize] def apply {α : Type} [Elementary α] : Op → α → α → α
  | add, x, y => x + y
  | sub, x, y => x - y
  | mul, x, y => x * y
  | div, x, y => x / y
  | pow, x, y => Elementary.pow x y

end Op

/-- A node of an expression without its operands: a token of the reverse Polish form. -/
inductive Token (α : Type) where
  | var (name : Char)
  | const (value : α)
  | func (f : Func)
  | op (o : Op)
deriving DecidableEq

/-- Expressions. -/
inductive Expr (α : Type) where
  /-- The variable, under the name it was written with. -/
  | var (name : Char)
  | const (value : α)
  | func (f : Func) (operand : Expr α)
  /-- An operator with its left and its right operand. -/
  | op (o : Op) (left right : Expr α)
deriving DecidableEq

namespace Token

variable {α : Type}

/-- The text of a token. -/
def text [Literal α] : Token α → String
  | var c => String.singleton c
  | const k => Literal.text k
  | func f => f.name
  | op o => o.name

/-- The number of operands of a token. -/
def arity : Token α → Nat
  | var _ => 0
  | const _ => 0
  | func _ => 1
  | op _ => 2

/-- A letter for the kind of a token. -/
def kind : Token α → Char
  | var _ => 'V'
  | const _ => 'C'
  | func _ => 'F'
  | op _ => 'O'

end Token

namespace Expr

variable {α : Type}

/-- The value of an expression where the variable has the value `x`. -/
@[specialize] def eval [Elementary α] (x : α) : Expr α → α
  | var _ => x
  | const k => k
  | func f e => f.apply (e.eval x)
  | op o l r => o.apply (l.eval x) (r.eval x)

/-- The fully parenthesised text. -/
def infixText [Literal α] : Expr α → String
  | var c => String.singleton c
  | const k => Literal.text k
  | func f e => f.name ++ "(" ++ e.infixText ++ ")"
  | op o l r => "(" ++ l.infixText ++ " " ++ o.name ++ " " ++ r.infixText ++ ")"

/-- The nodes, operands first and left before right. -/
def postorder : Expr α → List (Token α)
  | var c => [.var c]
  | const k => [.const k]
  | func f e => e.postorder ++ [.func f]
  | op o l r => l.postorder ++ r.postorder ++ [.op o]

/-- The reverse Polish form: the texts of the nodes in postorder, separated by spaces. -/
def rpn [Literal α] (e : Expr α) : String := " ".intercalate (e.postorder.map Token.text)

/-- The number of nodes. -/
def size : Expr α → Nat
  | var _ => 1
  | const _ => 1
  | func _ e => 1 + e.size
  | op _ l r => 1 + l.size + r.size

/-- The number of nodes on the longest path from the root to a leaf. -/
def depth : Expr α → Nat
  | var _ => 1
  | const _ => 1
  | func _ e => 1 + e.depth
  | op _ l r => 1 + max l.depth r.depth

/-- Whether a variable occurs. -/
def hasVariable : Expr α → Bool
  | var _ => true
  | const _ => false
  | func _ e => e.hasVariable
  | op _ l r => l.hasVariable || r.hasVariable

/-- Equality of trees whose constants are compared as numbers. -/
def same [Scalar α] : Expr α → Expr α → Bool
  | var c, var d => c == d
  | const k, const m => Scalar.eq k m
  | func f e, func g d => f == g && e.same d
  | op o l r, op p m s => o == p && l.same m && r.same s
  | _, _ => false

@[simp] theorem length_postorder (e : Expr α) : e.postorder.length = e.size := by
  induction e with
  | var | const => rfl
  | func f e ih => simp [postorder, size, ih]; omega
  | op o l r ihl ihr => simp [postorder, size, ihl, ihr]; omega

/-- The value of an expression that may be missing: a missing one is zero everywhere. -/
def evalOr [Elementary α] (e : Option (Expr α)) (x : α) : α :=
  match e with
  | some e => e.eval x
  | none => Scalar.ofNat 0

end Expr

end Quadrature

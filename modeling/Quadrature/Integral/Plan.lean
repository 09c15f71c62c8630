import Quadrature.Expr.Basic
import Quadrature.Failure
import Quadrature.Integral.Sums
import Quadrature.Log
import Quadrature.Rejection
import Quadrature.Sampling.Partition

/-!
# Integration

A request is checked first: the ends, the settings, and whether the interval can be sampled with
the search step. What is left is a **plan**, an ascending interval in equal parts together with the
direction that was asked for; its three sums are taken over the ascending interval and negated if
the request ran the other way.

* `Fineness.check`: the settings that a request may use.
* `Plan.ofRequest`: the plan of a request, or why it is rejected.
* `integrate`: the three sums of a function.
* `integrateLogged`: the same for an expression, with its log lines.
-/

namespace Quadrature

/-- How finely an integral is computed. -/
structure Fineness (α : Type) where
  /-- The number of parts of the partition. -/
  refinement : Nat
  /-- The step of the extremum search. -/
  step : α
  /-- Where the Riemann sum samples each part. -/
  rule : Rule
deriving DecidableEq

namespace Fineness

/-- A thousand parts, a step of `1e-5` and samples at the left ends. -/
def default : Fineness Float := ⟨1000, 1e-5, .default⟩

variable {α : Type} [Scalar α]

/-- The refinement has to be within its bounds and the step positive and finite. -/
def check (s : Fineness α) : Except (Rejection α) Unit :=
  if s.refinement < minRefinement || maxRefinement < s.refinement then
    .error (.refinementOutOfBounds s.refinement)
  else if !Scalar.isPositive s.step then .error (.invalidStep s.step)
  else .ok ()

/-- The partition of an interval. -/
def partition (s : Fineness α) (lo hi : α) : Partition α := ⟨lo, hi, s.refinement⟩

end Fineness

/-- An accepted request. -/
structure Plan (α : Type) where
  lo : α
  hi : α
  fineness : Fineness α
  /-- Whether the request ran from `hi` to `lo`. -/
  reversed : Bool

namespace Plan

variable {α : Type} [Scalar α]

/-- The plan of a request from `start` to `stop`. -/
def ofRequest (s : Fineness α) (start stop : α) : Except (Rejection α) (Plan α) := do
  if !Scalar.isFinite start || !Scalar.isFinite stop then throw (.nonFiniteBound start stop)
  if Scalar.eq start stop then throw (.degenerateInterval start)
  s.check
  let reversed := Scalar.lt stop start
  let lo := if reversed then stop else start
  let hi := if reversed then start else stop
  let width := hi - lo
  if !Scalar.isFinite width || !Scalar.isFinite (width / s.step) then
    throw (.intervalTooWide start stop s.step)
  return ⟨lo, hi, s, reversed⟩

/-- The partition that is summed over. -/
def partition (p : Plan α) : Partition α := p.fineness.partition p.lo p.hi

/-- The Riemann sum over the ascending interval. -/
@[specialize] def riemann (p : Plan α) (f : α → α) : Except (Unmet α) α :=
  p.partition.riemann? p.fineness.rule f

/-- A Darboux sum over the ascending interval. -/
@[specialize] def darboux (p : Plan α) (k : Extremum) (f : α → α) : Except (Unmet α) α :=
  p.partition.darboux? p.fineness.step k f

/-- The three sums over the ascending interval. -/
@[specialize] def sums (p : Plan α) (f : α → α) : Except (Unmet α) (Sums α) := do
  let riemann ← p.riemann f
  let lower ← p.darboux .min f
  let upper ← p.darboux .max f
  return ⟨riemann, lower, upper⟩

/-- Sums over the ascending interval as sums in the direction that was asked for. -/
def orient (p : Plan α) (s : Sums α) : Sums α := if p.reversed then s.negated else s

variable [Literal α]

/-- The log line before the sums. -/
def startLine (p : Plan α) (e : Expr α) : Log.Line :=
  Log.info <| "integrating " ++ e.infixText ++ " on " ++ intervalText p.lo p.hi ++
    ", refinement " ++ toString p.fineness.refinement ++
    ", step " ++ Literal.scientific p.fineness.step ++ ", rule " ++ p.fineness.rule.name ++
    if p.reversed then " (reversed interval)" else ""

end Plan

/-- The log line after the sums, which are still those of the ascending interval. -/
def Sums.line {α : Type} [Literal α] (s : Sums α) : Log.Line :=
  Log.debug <| "sums on the ascending interval: IntegralSums \x7b riemann: " ++
    Literal.precise s.riemann ++ ", lower_darboux: " ++ Literal.precise s.lower ++
    ", upper_darboux: " ++ Literal.precise s.upper ++ " \x7d"

variable {α : Type}

/-- The three sums of a function from `start` to `stop`. -/
@[specialize] def integrate [Scalar α] (s : Fineness α) (f : α → α) (start stop : α) :
    Except (Failure (Rejection α) (Unmet α)) (Sums α) := do
  let p ← Failure.ofRejection (Plan.ofRequest s start stop)
  let sums ← Failure.ofUnmet (p.sums f)
  return p.orient sums

/-- The three sums of an expression, and what is logged about them: a line for a request that is
accepted and a line for its sums. The lines about the times that the sums took are logged where the
times are taken, behind these. -/
@[specialize] def integrateLogged [Elementary α] [Literal α] (s : Fineness α) (e : Expr α)
    (start stop : α) : Except (Failure (Rejection α) (Unmet α)) (Sums α) × List Log.Line :=
  match Plan.ofRequest s start stop with
  | .error r => (.error (.rejected r), [])
  | .ok p =>
    match p.sums fun x => e.eval x with
    | .error u => (.error (.unmet u), [p.startLine e])
    | .ok sums => (.ok (p.orient sums), [p.startLine e, sums.line])

end Quadrature

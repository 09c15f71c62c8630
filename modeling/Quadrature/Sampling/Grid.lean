import Quadrature.Scalar

/-!
# The extremum search

The smallest or largest value of a function on an interval is estimated from samples on a grid:
the left end, the grid points `lo + i · step` up to the right end, and the right end itself. An
extremum strictly between two samples is missed.

* `Extremum.better`: a value is replaced only by a strictly better one, so of equal samples the
  earliest counts, and a value that is not a number neither replaces nor is replaced.
* `Grid.extremum`: the best sample.
* `Grid.unmet?`: the precondition, a positive step and finite ascending ends.
-/

namespace Quadrature

/-- Which extremum is searched. -/
inductive Extremum where
  | min | max
deriving DecidableEq

namespace Extremum

/-- Both kinds. -/
def all : List Extremum := [min, max]

/-- The name of a kind. -/
def name : Extremum → String
  | min => "Min"
  | max => "Max"

/-- The kind with exactly this name. -/
def ofName? (s : String) : Option Extremum := all.find? fun k => k.name == s

@[simp] theorem ofName?_name (k : Extremum) : ofName? k.name = some k := by
  cases k <;> decide

variable {α : Type} [Scalar α]

/-- Whether a value is strictly better than the best one so far. -/
@[inline] def improves (k : Extremum) (value best : α) : Bool :=
  match k with
  | min => Scalar.lt value best
  | max => Scalar.lt best value

/-- The better of the best value so far and a later one. -/
@[inline] def better (k : Extremum) (best value : α) : α :=
  if k.improves value best then value else best

end Extremum

/-- The calls that a sampling routine answers by stopping the program. -/
inductive Unmet (α : Type) where
  /-- A search step that is not positive and finite. -/
  | searchStep (step : α)
  /-- Search ends that are not finite and ascending. -/
  | searchInterval (lo hi : α)
  /-- A sum, known by its name, over ends that are not ascending. -/
  | descending (sum : String)
deriving DecidableEq

/-- The text of the failure. -/
def Unmet.message {α : Type} [Literal α] : Unmet α → String
  | searchStep h => "extremum search step must be positive and finite, got " ++ Literal.text h
  | searchInterval a b =>
    "extremum search needs a finite ascending interval, got [" ++ Literal.text a ++ ", " ++
      Literal.text b ++ "]"
  | descending sum => sum ++ " expects an ascending interval"

/-- An interval with the step in which it is searched. -/
structure Grid (α : Type) where
  lo : α
  hi : α
  step : α

namespace Grid

variable {α : Type} [Scalar α]

/-- Why a grid cannot be searched; the step is looked at first. -/
def unmet? (g : Grid α) : Option (Unmet α) :=
  if !Scalar.isPositive g.step then some (.searchStep g.step)
  else if Scalar.isFinite g.lo && Scalar.isFinite g.hi && Scalar.le g.lo g.hi then none
  else some (.searchInterval g.lo g.hi)

/-- The number of whole steps between the ends. -/
@[inline] def steps (g : Grid α) : Nat := Scalar.wholePart ((g.hi - g.lo) / g.step)

/-- The `i`-th grid point, but never beyond the right end. -/
@[inline] def point (g : Grid α) (i : Nat) : α :=
  Scalar.least (g.lo + Scalar.ofNat i * g.step) g.hi

/-- The best of the samples at the left end, the grid points and the right end. -/
@[specialize] def extremum (g : Grid α) (k : Extremum) (f : α → α) : α :=
  k.better (g.steps.fold (fun i _ best => k.better best (f (g.point (i + 1)))) (f g.lo)) (f g.hi)

/-- The best sample of a grid that can be searched. -/
@[specialize] def search (g : Grid α) (k : Extremum) (f : α → α) : Except (Unmet α) α :=
  match g.unmet? with
  | some u => .error u
  | none => .ok (g.extremum k f)

end Grid

end Quadrature

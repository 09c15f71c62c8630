import Quadrature.Sampling.Grid

/-!
# Sums over a partition

An ascending interval is divided into equal parts of one width. Every estimate of the integral adds
up, part after part, a value times the width.

* `Partition.point`: the ends of the parts; the last one is the right end of the interval exactly.
* `Partition.riemann`: the value at the left end, the right end or the middle of each part.
* `Partition.darboux`: the smallest or the largest sample of each part.
* `Partition.unmet?`: the first part whose samples cannot be searched.
-/

namespace Quadrature

/-- Where a Riemann sum samples each part. -/
inductive Rule where
  | left | right | midpoint
deriving DecidableEq

namespace Rule

/-- Every rule. -/
def all : List Rule := [left, right, midpoint]

/-- The name of a rule. -/
def name : Rule → String
  | left => "left"
  | right => "right"
  | midpoint => "midpoint"

/-- The rule with exactly this name. -/
def ofName? (s : String) : Option Rule := all.find? fun r => r.name == s

@[simp] theorem ofName?_name (r : Rule) : ofName? r.name = some r := by
  cases r <;> decide

/-- The rule where none is given. -/
def default : Rule := left

end Rule

/-- An interval in equal parts. -/
structure Partition (α : Type) where
  lo : α
  hi : α
  parts : Nat

namespace Partition

variable {α : Type} [Scalar α]

/-- The width of a part. -/
@[inline] def width (p : Partition α) : α := (p.hi - p.lo) / Scalar.ofNat p.parts

/-- The end of the `i`-th part and the beginning of the next one. -/
@[inline] def point (p : Partition α) (i : Nat) : α :=
  if i = p.parts then p.hi else p.lo + Scalar.ofNat i * p.width

/-- The last part ends where the interval ends, whatever the arithmetic rounds. -/
@[simp] theorem point_parts (p : Partition α) : p.point p.parts = p.hi := by
  simp [point]

/-- Where the part that begins at the `i`-th point is sampled. -/
@[inline] def sample (p : Partition α) (r : Rule) (i : Nat) : α :=
  match r with
  | .left => p.point i
  | .right => p.point (i + 1)
  | .midpoint => p.lo + (Scalar.ofNat i + Scalar.half) * p.width

/-- The part that begins at the `i`-th point, as a grid to be searched. -/
@[inline] def grid (p : Partition α) (step : α) (i : Nat) : Grid α :=
  ⟨p.point i, p.point (i + 1), step⟩

/-- Values times the width, added up part after part. -/
@[specialize] def sum (p : Partition α) (value : Nat → α) : α :=
  p.parts.fold (fun i _ s => s + value i * p.width) (Scalar.ofNat 0)

/-- The Riemann sum of a function. -/
@[specialize] def riemann (p : Partition α) (r : Rule) (f : α → α) : α :=
  p.sum fun i => f (p.sample r i)

/-- The sum of the smallest or the largest samples of a function. -/
@[specialize] def darboux (p : Partition α) (step : α) (k : Extremum) (f : α → α) : α :=
  p.sum fun i => (p.grid step i).extremum k f

/-- Why some part cannot be searched; the first such part counts. -/
def unmet? (p : Partition α) (step : α) : Option (Unmet α) :=
  p.parts.fold (fun i _ found => found <|> (p.grid step i).unmet?) none

/-- The name of the sum of smallest or largest samples. -/
def darbouxName : Extremum → String
  | .min => "lower_darboux_sum"
  | .max => "upper_darboux_sum"

/-- The Riemann sum of a function on an ascending interval. -/
@[specialize] def riemann? (p : Partition α) (r : Rule) (f : α → α) : Except (Unmet α) α :=
  if Scalar.le p.lo p.hi then .ok (p.riemann r f) else .error (.descending "riemann_sum")

/-- The sum of the smallest or the largest samples of a function on an ascending interval. -/
@[specialize] def darboux? (p : Partition α) (step : α) (k : Extremum) (f : α → α) :
    Except (Unmet α) α :=
  if Scalar.le p.lo p.hi then
    match p.unmet? step with
    | some u => .error u
    | none => .ok (p.darboux step k f)
  else .error (.descending (darbouxName k))

end Partition

end Quadrature

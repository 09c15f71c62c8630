/-!
# Failures

A computation fails in one of two ways: its input is **rejected** for a reason that is reported,
or it was called outside its **precondition**, which stops the program.
-/

namespace Quadrature

/-- Why a computation has no value. -/
inductive Failure (ε π : Type) where
  /-- The input is at fault. -/
  | rejected (reason : ε)
  /-- The call is at fault. -/
  | unmet (precondition : π)
deriving DecidableEq

namespace Failure

variable {ε π α : Type}

/-- A computation that can only be rejected. -/
def ofRejection : Except ε α → Except (Failure ε π) α
  | .ok a => .ok a
  | .error e => .error (.rejected e)

/-- A computation that can only miss its precondition. -/
def ofUnmet : Except π α → Except (Failure ε π) α
  | .ok a => .ok a
  | .error p => .error (.unmet p)

end Failure

end Quadrature

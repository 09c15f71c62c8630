import Quadrature.Decimal.Literal
import Quadrature.Rejection
import Quadrature.Text.Blank

/-!
# What a user enters

* `Integrand.accept`: an integrand of at most a hundred characters, without the blanks around it.
* `Refinement.accept`, `Refinement.read`: a number of parts within its bounds.
-/

namespace Quadrature

open Text

variable {α : Type}

/-- The length of the longest integrand. -/
def Integrand.maxLength : Nat := 100

/-- An integrand without the blanks around it. -/
def Integrand.accept (text : String) : Except (Rejection α) String :=
  let kept := trim text.toList
  if kept.isEmpty then .error .emptyIntegrand
  else if Integrand.maxLength < kept.length then
    .error (.integrandTooLong kept.length Integrand.maxLength)
  else .ok (String.ofList kept)

namespace Refinement

/-- The least integer in 64 bits, `-2 ^ 63`. -/
def leastInteger : Int := -9223372036854775808

/-- The greatest integer in 64 bits, `2 ^ 63 - 1`. -/
def greatestInteger : Int := 9223372036854775807

/-- An integer in 64 bits. -/
def integer? (text : String) : Option Int :=
  Decimal.readInteger? text leastInteger greatestInteger

/-- A number of parts. -/
def accept (value : Int) : Except (Rejection α) Nat :=
  if value < minRefinement || maxRefinement < value then .error (.refinementOutOfBounds value)
  else .ok value.toNat

/-- A number of parts as it is typed. -/
def read (text : String) : Except (Rejection α) Nat :=
  match integer? (trimmed text) with
  | some value => accept value
  | none => .error (.invalidSetting "refinement" (.notInteger (trimmed text)))

end Refinement

end Quadrature

import Quadrature.Scalar
import Quadrature.Text.Quoted

/-!
# Rejected input

A `Rejection` is the reason why an integrand, an interval, a refinement or a setting is not
accepted. It carries the offending values; `Rejection.message` words it.
-/

namespace Quadrature

/-- The least number of parts of a partition. -/
def minRefinement : Nat := 1

/-- The greatest number of parts of a partition. -/
def maxRefinement : Nat := 20000000

/-- What is wrong with a settings document from some place on. -/
inductive Expected where
  /-- An identifier or a colon should have followed. -/
  | tag
  /-- A value should have followed. -/
  | value
deriving DecidableEq

/-- What is wrong with a setting. -/
inductive SettingFault where
  | notInteger (text : String)
  | notNumber (text : String)
  | notLetter (text : String)
  | zeroCapacity
  | unknownRule (text : String)
  | unknownLevel (text : String)
  | notBoolean (text : String)
  | unknownKey
  /-- A document that goes on after its last section. -/
  | unparsed (rest : String)
  /-- A document without a section, with the rest at which its first section breaks off. -/
  | noSection (rest : String) (expected : Expected)
deriving DecidableEq

/-- The word for what should have followed. -/
def Expected.name : Expected → String
  | tag => "Tag"
  | value => "TakeTill1"

/-- The text of what is wrong with a setting. -/
def SettingFault.message : SettingFault → String
  | notInteger t => "'" ++ t ++ "' is not an integer"
  | notNumber t => "'" ++ t ++ "' is not a valid number"
  | notLetter t => "'" ++ t ++ "' must be a single letter"
  | zeroCapacity => "must be at least 1"
  | unknownRule t => "'" ++ t ++ "', must be left, right or midpoint"
  | unknownLevel t => "'" ++ t ++ "', must be debug, info, warn, error or off"
  | notBoolean t => "'" ++ t ++ "' is not true/false"
  | unknownKey => "unknown setting"
  | unparsed rest => "failed to parse '" ++ rest ++ "'"
  | noSection rest expected =>
    "parsing error: Error(Error \x7b input: " ++ String.ofList (Text.quoted rest.toList) ++
      ", code: " ++ expected.name ++ " \x7d)"

/-- Why an input is not accepted. -/
inductive Rejection (α : Type) where
  | integrandTooLong (length : Nat) (most : Nat)
  | emptyIntegrand
  | undefinedInterval
  | malformedInterval (text : String)
  /-- Both ends of the interval are this number. -/
  | degenerateInterval (bound : α)
  | nonFiniteBound (start stop : α)
  | intervalTooWide (start stop step : α)
  | refinementOutOfBounds (value : Int)
  | invalidStep (step : α)
  | invalidSetting (key : String) (fault : SettingFault)
deriving DecidableEq

/-- The two ends of an interval in brackets. -/
def intervalText {α : Type} [Literal α] (start stop : α) : String :=
  "[" ++ Literal.text start ++ " ; " ++ Literal.text stop ++ "]"

/-- The text of a rejection. -/
def Rejection.message {α : Type} [Literal α] : Rejection α → String
  | integrandTooLong length most =>
    s!"the integrand is too long: {length} characters, at most {most} allowed"
  | emptyIntegrand => "the integrand is empty"
  | undefinedInterval => "the interval is not defined"
  | malformedInterval t => "malformed interval '" ++ t ++ "', expected \"[start ; end]\""
  | degenerateInterval c =>
    "integrating in a [c ; c] interval is defined to be equal to 0 (c = " ++ Literal.text c ++ ")"
  | nonFiniteBound a b => "interval bounds must be finite, got " ++ intervalText a b
  | intervalTooWide a b h =>
    "interval " ++ intervalText a b ++ " is too wide to be sampled with step " ++ Literal.text h
  | refinementOutOfBounds n =>
    s!"the scale of refinement must be between {minRefinement} and {maxRefinement}, got {n}"
  | invalidStep h => "the extremum search step must be positive and finite, got " ++ Literal.text h
  | invalidSetting key fault => "invalid setting " ++ key ++ ": " ++ fault.message

end Quadrature

/-!
# Log lines

A log line has a level and a text. A threshold admits the lines at least as urgent as its level;
no threshold is reached when logging is off.
-/

namespace Quadrature.Log

/-- Levels, the most urgent first. -/
inductive Level where
  | error | warn | info | debug
deriving DecidableEq

namespace Level

/-- The level in capitals. -/
def name : Level → String
  | error => "ERROR"
  | warn => "WARN"
  | info => "INFO"
  | debug => "DEBUG"

/-- How far a level is from the most urgent one. -/
def rank : Level → Nat
  | error => 0
  | warn => 1
  | info => 2
  | debug => 3

end Level

/-- The least urgent level that is logged; none when logging is off. -/
abbrev Threshold := Option Level

namespace Threshold

/-- The level in capitals, or `OFF`. -/
def name : Threshold → String
  | some l => l.name
  | none => "OFF"

/-- Whether a line of this level is logged. -/
def admits (t : Threshold) (l : Level) : Bool :=
  match t with
  | some least => l.rank ≤ least.rank
  | none => false

end Threshold

/-- A log line. -/
structure Line where
  level : Level
  text : String
deriving DecidableEq

/-- The line as it is written at a time of day. -/
def Line.stamped (clock : String) (l : Line) : String :=
  clock ++ " [" ++ l.level.name ++ "] " ++ l.text ++ "\n"

/-- A line of the level `debug`. -/
def debug (text : String) : Line := ⟨.debug, text⟩

/-- A line of the level `info`. -/
def info (text : String) : Line := ⟨.info, text⟩

/-- A line of the level `warn`. -/
def warn (text : String) : Line := ⟨.warn, text⟩

/-- A line of the level `error`. -/
def error (text : String) : Line := ⟨.error, text⟩

end Quadrature.Log

import Quadrature.Entry
import Quadrature.Integral.Plan
import Quadrature.Rpn.Compile
import Quadrature.Settings.Document
import Quadrature.Text.Casing
import Quadrature.Text.Letter

/-!
# Settings

The settings of the program and how a document changes them. A key that a document does not
mention keeps its default.

* `Change.read`: the change that a setting asks for, or why it is not accepted.
* `Settings.change`: the settings after a change; every change touches one field.
* `Settings.ofDocument`, `Settings.read`: the settings after all changes of a document.
-/

namespace Quadrature

open Text

/-- Where the log goes. -/
structure Logging where
  /-- The least urgent level that is logged. -/
  threshold : Log.Threshold
  /-- Whether the log is also written to a file. -/
  toFile : Bool
  /-- The name of that file, if one was given. -/
  file : Option String
deriving DecidableEq

/-- The settings of the program. -/
structure Settings where
  compiler : Compiler
  fineness : Fineness Float
  logging : Logging
  /-- The file of saved functions. -/
  functionsFile : String
deriving DecidableEq

namespace Settings

/-- The settings where nothing is given. -/
def default : Settings where
  compiler := .default
  fineness := .default
  logging := ⟨some .info, false, none⟩
  functionsFile := "functions.txt"

end Settings

/-- The levels by the names that settings use. -/
def Log.Threshold.names : List (String × Log.Threshold) :=
  [("debug", some .debug), ("info", some .info), ("warn", some .warn), ("error", some .error),
    ("off", none), ("none", none)]

/-- A level by its name, in any case and with blanks around it. -/
def Log.Threshold.read {α : Type} (text : String) : Except (Rejection α) Log.Threshold :=
  let name := String.ofList (lowercase (trim text.toList))
  match Log.Threshold.names.find? fun t => t.1 == name with
  | some t => .ok t.2
  | none => .error (.invalidSetting "loglevel" (.unknownLevel name))

/-- A change of one setting. -/
inductive Change where
  | symbol (c : Char)
  | capacity (n : Nat)
  | refinement (n : Nat)
  | step (h : Float)
  | rule (r : Rule)
  | threshold (t : Log.Threshold)
  | toFile (b : Bool)
  | logFile (name : String)
  | functionsFile (name : String)

namespace Change

/-- The greatest stack capacity that can be written, `2 ^ 64 - 1`. -/
def greatestCapacity : Nat := 18446744073709551615

/-- The change that a setting asks for. -/
def read (s : Setting) : Except (Rejection Float) Change :=
  let invalid (fault : SettingFault) : Except (Rejection Float) Change :=
    .error (.invalidSetting (s.title ++ "." ++ s.key) fault)
  match s.title, s.key with
  | "parser", "variable" =>
    match s.value.toList with
    | [c] => if isLetter c then .ok (symbol c) else invalid (.notLetter s.value)
    | _ => invalid (.notLetter s.value)
  | "parser", "stack_capacity" =>
    match Decimal.readNatural? s.value greatestCapacity with
    | some 0 => invalid .zeroCapacity
    | some n => .ok (capacity n)
    | none => invalid (.notNumber s.value)
  | "integration", "refinement" =>
    match Refinement.integer? s.value with
    | some n => refinement <$> Refinement.accept n
    | none => invalid (.notNumber s.value)
  | "integration", "step" =>
    match Decimal.readDouble? s.value with
    | some h => if Scalar.isPositive h then .ok (step h) else .error (.invalidStep h)
    | none => invalid (.notNumber s.value)
  | "integration", "rule" =>
    match Rule.ofName? (String.ofList (lowercase s.value.toList)) with
    | some r => .ok (rule r)
    | none => invalid (.unknownRule s.value)
  | "logging", "loglevel" => threshold <$> Log.Threshold.read s.value
  | "logging", "log_to_file" =>
    if s.value = "true" then .ok (toFile true)
    else if s.value = "false" then .ok (toFile false)
    else invalid (.notBoolean s.value)
  | "logging", "log_file" => .ok (logFile s.value)
  | "storage", "functions_file" => .ok (functionsFile s.value)
  | _, _ => invalid .unknownKey

end Change

namespace Settings

/-- The settings after a change. -/
def change (s : Settings) : Change → Settings
  | .symbol c => { s with compiler := { s.compiler with symbol := c } }
  | .capacity n => { s with compiler := { s.compiler with capacity := n } }
  | .refinement n => { s with fineness := { s.fineness with refinement := n } }
  | .step h => { s with fineness := { s.fineness with step := h } }
  | .rule r => { s with fineness := { s.fineness with rule := r } }
  | .threshold t => { s with logging := { s.logging with threshold := t } }
  | .toFile b => { s with logging := { s.logging with toFile := b } }
  | .logFile name => { s with logging := { s.logging with file := some name } }
  | .functionsFile name => { s with functionsFile := name }

/-- The settings after what one setting of a document asks for. -/
def apply (s : Settings) (t : Setting) : Except (Rejection Float) Settings :=
  s.change <$> Change.read t

/-- The default settings after all settings of a document, in their order. -/
def ofDocument (d : Document) : Except (Rejection Float) Settings := do
  let s ← d.foldlM apply default
  s.fineness.check
  return s

/-- The settings that a document asks for. -/
def read (text : String) : Except (Rejection Float) Settings := do
  ofDocument (← Document.read text)

end Settings

end Quadrature

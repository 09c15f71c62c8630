import Quadrature.Entry
import Quadrature.Journal
import Quadrature.Report.Basic
import Quadrature.Settings.Basic

/-!
# One attempt at an integral

An attempt is a dialogue that may end early: with a fault, which is reported before the program
goes on, or with a call outside its precondition, which stops the program.

* `ask`: a question and the line that answers it.
* `integrateTimed`: the sums of an expression and the times that they took.
* `integrateText`: the report for an integrand, an interval and a refinement.
* `integrateNew`, `integrateLast`, `listSaved`: what the menu offers.
-/

namespace Quadrature

/-- Why an attempt is given up. -/
inductive Fault where
  | compile (e : CompileError)
  | rejected (r : Rejection Float)
  | file (e : FileError)
deriving DecidableEq

/-- The text of a fault. -/
def Fault.message : Fault → String
  | compile e => "compile error: " ++ e.message
  | rejected r => "validation error: " ++ r.message
  | file e => "i/o error: " ++ e.message

/-- How an attempt ends early: with a fault, or with the text of a missed precondition. -/
abbrev Ending := Failure Fault String

/-- A dialogue that may end early. -/
abbrev Attempt := ExceptT Ending Dialogue

namespace Attempt

variable {α : Type}

/-- A dialogue as an attempt that always succeeds. -/
def say (d : Dialogue α) : Attempt α := ExceptT.lift d

/-- A result that may be a fault. -/
def check {ε : Type} (fault : ε → Fault) : Except ε α → Attempt α
  | .ok a => ExceptT.mk (pure (.ok a))
  | .error e => ExceptT.mk (pure (.error (.rejected (fault e))))

/-- A result that may miss its precondition. -/
def require {π : Type} (text : π → String) : Except π α → Attempt α
  | .ok a => ExceptT.mk (pure (.ok a))
  | .error p => ExceptT.mk (pure (.error (.unmet (text p))))

/-- A dialogue about files. -/
def onFile (d : ExceptT FileError Dialogue α) : Attempt α := do
  check .file (← say d.run)

end Attempt

open Attempt

/-- A question and the line that answers it, without the blanks around it; nothing at the end of
the input. -/
def ask (question : String) : ExceptT FileError Dialogue (Option String) := do
  Dialogue.write question
  match ← Dialogue.request .readLine with
  | none => return none
  | some line =>
    let text ← ExceptT.mk (pure (decode line))
    return some (Text.trimmed text)

/-- The expression that an integrand writes. -/
def compileText (c : Compiler) (integrand : String) : Attempt (Expr Float) := do
  let (outcome, lines) := compileLogged c (rpnTokens integrand)
  say (Dialogue.logAll lines)
  match outcome with
  | .ok e => return e
  | .error (.rejected e) => check .compile (.error e)
  | .error (.unmet p) => require CapacityOverflow.message (.error p)

/-- A sum and the time that it took. -/
def measured (work : Work) : Attempt (Float × Duration) := do
  let (outcome, time) ← say (Dialogue.request (.measure work))
  return (← require Unmet.message outcome, time)

/-- The three sums of an expression from `start` to `stop`, and the times that they took. -/
def integrateTimed (s : Fineness Float) (e : Expr Float) (start stop : Float) :
    Attempt (Sums Float × Timings) := do
  let plan ← check .rejected (Plan.ofRequest s start stop)
  say (Dialogue.log (plan.startLine e))
  let f := fun x => e.eval x
  let begun ← say (Dialogue.request .instant)
  let (riemann, time₁) ← measured fun _ => plan.riemann f
  let (lower, time₂) ← measured fun _ => plan.darboux .min f
  let (upper, time₃) ← measured fun _ => plan.darboux .max f
  let sums : Sums Float := ⟨riemann, lower, upper⟩
  say (Dialogue.log sums.line)
  let times : Timings := ⟨time₁, time₂, time₃⟩
  let ended ← say (Dialogue.request .instant)
  say (Dialogue.logAll (times.lines (begun.between ended)))
  return (plan.orient sums, times)

/-- The report for an integrand, an interval and a refinement. -/
def integrateText (s : Settings) (integrand interval : String) (refinement : Nat) :
    Attempt Report := do
  let integrand ← check .rejected (Integrand.accept integrand)
  let (start, stop) ← check .rejected (Interval.read interval)
  let e ← compileText s.compiler integrand
  let (sums, times) ← integrateTimed { s.fineness with refinement } e start stop
  return ⟨integrand, start, stop, refinement, sums, times.inMilliseconds⟩

/-- The question for the number of parts. -/
def refinementQuestion : String :=
  s!"Enter the scale of refinement (x in [{minRefinement} ; {maxRefinement}]): "

/-- Asks how finely to integrate an entry, and writes the report. -/
def integrateEntry (s : Settings) (e : Entry) : Attempt Unit := do
  match ← onFile (ask refinementQuestion) with
  | none => return ()
  | some answer =>
    let refinement ← check .rejected (Refinement.read answer)
    let report ← integrateText s e.integrand e.interval refinement
    say (Dialogue.write ("\n" ++ report.text ++ "\n"))

/-- Asks for an integrand and an interval, saves and integrates them. -/
def integrateNew (s : Settings) : Attempt Unit := do
  match ← onFile (ask "Integrand (RPN): ") with
  | none => return ()
  | some typed =>
    let integrand ← check .rejected (Integrand.accept typed)
    match ← onFile (ask "Start of the interval: ") with
    | none => return ()
    | some start =>
      match ← onFile (ask "End of the interval: ") with
      | none => return ()
      | some stop =>
        let entry : Entry := ⟨integrand, Interval.line start stop⟩
        onFile (Journal.append s.functionsFile entry)
        integrateEntry s entry

/-- Integrates the entry that was saved last. -/
def integrateLast (s : Settings) : Attempt Unit := do
  match ← onFile (Journal.newest s.functionsFile) with
  | none => say (Dialogue.log (Log.warn (s.functionsFile ++ " holds no saved function")))
  | some entry =>
    say (Dialogue.write ("Function to integrate: " ++ entry.integrand ++ "\n"))
    say (Dialogue.write ("Interval: " ++ entry.interval ++ "\n"))
    integrateEntry s entry

/-- Writes the file of saved functions. -/
def listSaved (s : Settings) : Attempt Unit := do
  say (Dialogue.write (← onFile (Journal.contents s.functionsFile)))

end Quadrature

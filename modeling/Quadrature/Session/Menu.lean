import Quadrature.Session.Attempt
import Quadrature.Session.World

/-!
# The menu

The program offers its tasks again and again. One **pass** asks for a choice and carries it out; a
fault is reported, and the menu comes back.

* `Menu.pass`: one pass.
* `Menu.run`: passes in a world until one is the last. Every pass that is not the last consumes
  input, so there are no more of them than bytes of input.
-/

namespace Quadrature.Menu

/-- What the rules of the program are. -/
def rules : String :=
  "Welcome to numerical integration!\n" ++
  "--------------------------------------------------------------------------------\n" ++
  "| The rules of integrating:\n" ++
  "| \t a. Enter the integrand in Reverse Polish Notation, e.g. \x60x 2 ^ x sin +\x60.\n" ++
  "| \t b. Separate all operands and operators by spaces.\n" ++
  "| \t c. Functions: sin cos tg ctg ln exp, operators: + - * / ^.\n" ++
  "| \t d. The entry for the integrand must not exceed 100 characters.\n" ++
  "| \t e. The interval is entered as its two ends, a reversed interval flips the sign.\n" ++
  "--------------------------------------------------------------------------------\n"

/-- The tasks that are offered. -/
def question : String :=
  "\n" ++
  "I can do the following tasks for you:\n" ++
  "\t 1. Numerical integration\n" ++
  "\t 2. Integrate the last saved function\n" ++
  "\t 3. List the functions that have been saved\n" ++
  "\t Other: Exit\n" ++
  "\n" ++
  "To execute a task, enter a number chosen from above: "

/-- A choice from the menu. -/
inductive Choice where
  | integrateNew
  | integrateLast
  | listSaved
  | exit
deriving DecidableEq

/-- The choice that an answer stands for. -/
def Choice.ofAnswer (answer : String) : Choice :=
  if answer = "1" then integrateNew
  else if answer = "2" then integrateLast
  else if answer = "3" then listSaved
  else exit

/-- The attempt that a choice starts; none to leave the menu. -/
def Choice.attempt? (s : Settings) : Choice → Option (Attempt Unit)
  | integrateNew => some (Quadrature.integrateNew s)
  | integrateLast => some (Quadrature.integrateLast s)
  | listSaved => some (Quadrature.listSaved s)
  | exit => none

/-- What comes after a pass. -/
inductive Next where
  /-- Another pass. -/
  | again
  /-- The end, as it was chosen. -/
  | left
  /-- The end, since a choice could not be read. -/
  | unreadable (e : FileError)
  /-- The end, since a precondition was missed. -/
  | stopped (text : String)
deriving DecidableEq

/-- What comes after an attempt; a fault is reported. -/
def afterAttempt : Except Ending Unit → Dialogue Next
  | .ok () => return .again
  | .error (.rejected fault) => do
    Dialogue.log (Log.error fault.message)
    Dialogue.write ("Error: " ++ fault.message ++ "\n")
    return .again
  | .error (.unmet text) => return .stopped text

/-- Asks for a choice and carries it out; the end of the input is the choice to leave. -/
def pass (s : Settings) : Dialogue Next := do
  match ← (ask question).run with
  | .error e => return .unreadable e
  | .ok answer =>
    Dialogue.write "\n"
    let choice := (answer.map Choice.ofAnswer).getD .exit
    match choice.attempt? s with
    | none =>
      Dialogue.log (Log.info "exit")
      return .left
    | some attempt => afterAttempt (← attempt.run)

/-- Passes until one is the last, and the world after them. -/
def run (s : Settings) (w : World) : Next × World :=
  let (next, after) := w.answer (pass s)
  match next with
  | .again =>
    if after.input.length < w.input.length then run s after else (next, after)
  | _ => (next, after)
termination_by w.input.length

end Quadrature.Menu

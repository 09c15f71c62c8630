import Quadrature.CommandLine
import Quadrature.Session.Menu

/-!
# The program

The program reads its command line, loads its settings, starts its log and offers the menu.

* `Program.load`: the settings of a command line.
* `Program.startLog`: starts the log that the settings ask for.
* `Program.opening`, `Program.closing`: what is done before the first and after the last pass of
  the menu.
* `Program.run`: a whole run in a world, with its exit code.
-/

namespace Quadrature.Program

open Attempt

/-- The settings of a command line: those of its settings document, or the defaults, after the
changes that its other parameters make. -/
def load (c : CommandLine) : Attempt Settings := do
  let s ← match c.config with
    | none => pure Settings.default
    | some file => do
      let text ← onFile (Dialogue.readText file)
      check .rejected (Settings.read text)
  let s ← match c.loglevel with
    | none => pure s
    | some level => do
      let t ← check .rejected (Log.Threshold.read level)
      pure (s.change (.threshold t))
  let s := match c.logFile with
    | none => s
    | some file => (s.change (.toFile true)).change (.logFile file)
  return match c.functionsFile with
    | none => s
    | some file => s.change (.functionsFile file)

/-- Starts the log, unless logging is off. The answer is whether a log was started, which happens
only once; creating the log file may fail. -/
def startLog (l : Logging) : ExceptT FileError Dialogue Bool := do
  match l.threshold with
  | none => return false
  | some level =>
    let file ← match l.toFile, l.file with
      | false, _ => pure none
      | true, some file => pure (some file)
      | true, none => do
        let t ← Dialogue.request .now
        pure (some t.logFile)
    match file with
    | none => pure ()
    | some file => ExceptT.mk (Dialogue.request (.createFile file))
    let started ← Dialogue.request (.startLog level file)
    if started then
      Dialogue.log (Log.info ("Program started with loglevel: " ++ level.name))
    return started

/-- How the program is called. -/
def usage : String :=
  "Usage: quadrature [OPTIONS]\n\n" ++
  "Riemann and Darboux sums of functions written in Reverse Polish Notation\n\n" ++
  "Options:\n" ++
  "  -c, --config <CONFIG>                  settings document with the sections\n" ++
  "                                         parser, integration, logging, storage\n" ++
  "  -l, --loglevel <LOGLEVEL>              debug, info, warn, error or off\n" ++
  "      --log-file <LOG_FILE>              also write the log to this file\n" ++
  "  -f, --functions-file <FUNCTIONS_FILE>  where integrated functions are saved\n" ++
  "  -h, --help                             print help\n" ++
  "  -V, --version                          print version\n"

/-- The exit code after a run. -/
def success : Nat := 0

/-- The exit code where no settings could be loaded. -/
def noSettings : Nat := 1

/-- The exit code of a misused command line. -/
def misused : Nat := 2

/-- The exit code where a precondition was missed. -/
def aborted : Nat := 134

/-- What is done before the first pass: the settings of the menu, or the exit code. -/
def opening : CommandLine.Wish → Dialogue (Except Nat Settings)
  | .help => do
    Dialogue.write usage
    return .error success
  | .version => do
    Dialogue.write "quadrature 0.1.0\n"
    return .error success
  | .misuse => do
    Dialogue.complain usage
    return .error misused
  | .run c => do
    match ← (load c).run with
    | .error (.rejected fault) =>
      Dialogue.complain ("Error: " ++ fault.message ++ "\n")
      return .error noSettings
    | .error (.unmet text) =>
      Dialogue.complain (text ++ "\n")
      return .error aborted
    | .ok s =>
      match ← (startLog s.logging).run with
      | .error e => Dialogue.complain ("could not create the log file: " ++ e.message ++ "\n")
      | .ok _ => pure ()
      Dialogue.write (Menu.rules ++ "\n")
      return .ok s

/-- What is done after the last pass: the exit code. -/
def closing : Menu.Next → Dialogue Nat
  | .again => return success
  | .left => return success
  | .unreadable e => do
    Dialogue.log (Log.error e.message)
    return success
  | .stopped text => do
    Dialogue.complain (text ++ "\n")
    return aborted

/-- A run of the program in a world: the exit code, and the world after it. -/
def run (args : List String) (w : World) : Nat × World :=
  let (opened, w) := w.answer (opening (CommandLine.read args))
  match opened with
  | .error code => (code, w)
  | .ok s =>
    let (next, w) := Menu.run s w
    w.answer (closing next)

end Quadrature.Program

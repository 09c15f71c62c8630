import Std.Time.DateTime
import Quadrature.Session.Program

/-!
# The executable

Meets the requests of the program with the standard streams, the file system and the clock.
-/

namespace Quadrature.Outside

/-- The log that was started: its level and, if it also goes to a file, that file. -/
structure OpenLog where
  level : Log.Level
  file : Option IO.FS.Handle

/-- Actions that know the log. -/
abbrev Action := StateT (Option OpenLog) IO

/-- A failure of the file system in the words of the program. -/
def fileError : IO.Error → FileError
  | .noFileOrDirectory _ _ _ => .notFound
  | .inappropriateType _ 21 _ => .isDirectory
  | .inappropriateType _ 20 _ => .notDirectory
  | .invalidArgument _ 36 _ => .nameTooLong
  | e => .other (toString e)

/-- An action on files with its failure as a value. -/
def onFiles {α : Type} (act : IO α) : IO (Except FileError α) := do
  try
    return .ok (← act)
  catch e => return .error (fileError e)

/-- The bytes up to and with the next line feed, in front of the bytes that were read before. -/
partial def readLine (input : IO.FS.Stream) (before : ByteArray) : IO ByteArray := do
  let next ← input.read 1
  if next.isEmpty then return before
  let line := before ++ next
  if next.toList = [World.lineFeed] then return line
  readLine input line

/-- The present moment in universal time. -/
def now : IO Moment := do
  let wall := Std.Time.WallTime.ofTimestamp (← Std.Time.Timestamp.now) .zero
  let t := Std.Time.PlainDateTime.ofWallTime wall
  return ⟨Int.toNat t.date.year, t.date.month.toNat, t.date.day.toNat, t.time.hour.toNat,
    t.time.minute.toNat, t.time.second.toNat⟩

/-- Writes a text at once. -/
def put (out : IO.FS.Stream) (text : String) : IO Unit := do
  out.putStr text
  out.flush

/-- Writes a log line where the log goes. -/
def log (l : Log.Line) : Action Unit := do
  match ← get with
  | none => return ()
  | some sink =>
    if Log.Threshold.admits (some sink.level) l.level then
      let text := l.stamped (← now).clock
      put (← if l.level = .error then IO.getStderr else IO.getStdout) text
      match sink.file with
      | none => return ()
      | some file =>
        file.putStr text
        file.flush

/-- Meets a request. -/
def meet : (r : Request) → Action r.Answer
  | .write text => do put (← IO.getStdout) text
  | .complain text => do put (← IO.getStderr) text
  | .readLine => do
    let line ← readLine (← IO.getStdin) ByteArray.empty
    return if line.isEmpty then none else some line
  | .readFile name => onFiles (IO.FS.readBinFile name)
  | .appendFile name text => onFiles do (← IO.FS.Handle.mk name .append).putStr text
  | .createFile name => onFiles (IO.FS.writeFile name "")
  | .startLog level file => do
    match ← get with
    | some _ => return false
    | none =>
      let handle ← file.mapM fun name => (IO.FS.Handle.mk name .write : IO IO.FS.Handle)
      set (some (OpenLog.mk level handle))
      return true
  | .log line => log line
  | .now => (now : IO Moment)
  | .instant => return Duration.ofNanoseconds (← IO.monoNanosNow)
  | .measure work => do
    let before ← IO.monoNanosNow
    let outcome ← (IO.lazyPure work : IO (Except (Unmet Float) Float))
    let after ← IO.monoNanosNow
    return (outcome, Duration.ofNanoseconds (after - before))

/-- Carries out a dialogue. -/
def perform {α : Type} : Dialogue α → Action α
  | .done a => return a
  | .ask r next => do perform (next (← meet r))

/-- Passes of the menu until one is the last. -/
partial def menu (s : Settings) : Action Menu.Next := do
  match ← perform (Menu.pass s) with
  | .again => menu s
  | next => return next

/-- A run of the program: its exit code. -/
def run (args : List String) : Action Nat := do
  match ← perform (Program.opening (CommandLine.read args)) with
  | .error code => return code
  | .ok s => perform (Program.closing (← menu s))

end Quadrature.Outside

/-- Runs the program on its arguments. -/
def main (args : List String) : IO UInt32 := do
  let (code, _) ← (Quadrature.Outside.run args).run none
  return code.toUInt32

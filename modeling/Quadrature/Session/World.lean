import Quadrature.Session.Dialogue

/-!
# A world to talk to

A `World` is the smallest outside world in which a dialogue can run: an input of bytes, a folder,
what has been written to the two outputs, and the log. Its clock stands still and its work takes no
time.

* `World.nextLine`: the input up to the next line feed, and the rest.
* `World.meet`: how every request is met.
* `World.answer`: the result of a dialogue, and the world after it.
-/

namespace Quadrature

/-- A log that was started: its level and, if it also goes to a file, the place in that file at
which it is written next. -/
structure Sink where
  level : Log.Level
  file : Option (String × Nat)

/-- The outside world. -/
structure World where
  input : List UInt8
  folder : Folder
  output : String
  errors : String
  sink : Option Sink
  /-- Every log line so far, also those that no log admitted. -/
  lines : List Log.Line
  moment : Moment

namespace World

/-- A world in which nothing has happened yet. -/
def fresh (input : List UInt8) (folder : Folder) : World where
  input := input
  folder := folder
  output := ""
  errors := ""
  sink := none
  lines := []
  moment := .epoch

/-- The line feed as a byte. -/
def lineFeed : UInt8 := 10

/-- The bytes up to and with the first line feed, and the rest. -/
def nextLine (input : List UInt8) : List UInt8 × List UInt8 :=
  let (line, rest) := input.span (· ≠ lineFeed)
  match rest with
  | feed :: rest => (line ++ [feed], rest)
  | [] => (line, [])

/-- Bytes as a byte array. -/
def packed (bytes : List UInt8) : ByteArray := ⟨bytes.toArray⟩

/-- Text in a file from a place on, over whatever stood there. -/
def overwrite (folder : Folder) (name : String) (place : Nat) (text : String) : Folder :=
  match folder.locate name true with
  | .ok file =>
    let bytes := text.toUTF8
    let content := (folder.get? file).getD ByteArray.empty
    folder.put file (content.extract 0 place ++ bytes ++
      content.extract (place + bytes.size) content.size)
  | .error _ => folder

/-- The world after a log line: an error goes to the error output, any other line to the output,
and all of them to the file. -/
def logged (w : World) (l : Log.Line) : World :=
  let w := { w with lines := w.lines ++ [l] }
  match w.sink with
  | none => w
  | some sink =>
    if !Log.Threshold.admits (some sink.level) l.level then w
    else
      let text := l.stamped w.moment.clock
      let w :=
        if l.level = .error then { w with errors := w.errors ++ text }
        else { w with output := w.output ++ text }
      match sink.file with
      | none => w
      | some (name, place) =>
        { w with
          folder := overwrite w.folder name place text
          sink := some { sink with file := some (name, place + text.utf8ByteSize) } }

/-- The answer to a request and the world after it. -/
def meet (r : Request) (w : World) : r.Answer × World :=
  match r with
  | .write text => ((), { w with output := w.output ++ text })
  | .complain text => ((), { w with errors := w.errors ++ text })
  | .readLine =>
    if w.input.isEmpty then ((none : Option ByteArray), w)
    else
      let (line, rest) := nextLine w.input
      (some (packed line), { w with input := rest })
  | .readFile name => (w.folder.read name, w)
  | .appendFile name text =>
    match w.folder.append name text.toUTF8 with
    | .ok folder => ((.ok () : Except FileError Unit), { w with folder := folder })
    | .error e => (.error e, w)
  | .createFile name =>
    match w.folder.create name with
    | .ok folder => ((.ok () : Except FileError Unit), { w with folder := folder })
    | .error e => (.error e, w)
  | .startLog level file =>
    match w.sink with
    | some _ => (false, w)
    | none => (true, { w with sink := some ⟨level, file.map fun name => (name, 0)⟩ })
  | .log line => ((), w.logged line)
  | .now => (w.moment, w)
  | .instant => (Duration.zero, w)
  | .measure work => ((work (), Duration.zero), w)

/-- The result of a dialogue, and the world after it. -/
def answer {α : Type} (d : Dialogue α) (w : World) : α × World := d.answeredBy meet w

end World

end Quadrature

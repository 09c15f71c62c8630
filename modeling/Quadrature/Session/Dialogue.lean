import Quadrature.Duration
import Quadrature.Files
import Quadrature.Log
import Quadrature.Sampling.Grid
import Quadrature.Session.Moment

/-!
# Dialogues with the outside world

What the program does beyond computing is a dialogue: it makes one request after another and goes
on with the answers. A dialogue is a value; it says what is asked in which order, and not how the
requests are met.

* `Request`: everything that is ever asked for.
* `Dialogue`: a result, or a request and what is done with its answer.
* `Dialogue.answeredBy`: the result in a world that meets every request.
-/

namespace Quadrature

/-- A piece of work that takes a while. -/
abbrev Work := Unit → Except (Unmet Float) Float

/-- What the program asks of the outside world. -/
inductive Request where
  /-- Text for the output. -/
  | write (text : String)
  /-- Text for the error output. -/
  | complain (text : String)
  /-- The next line of the input, with the line feed that ends it. -/
  | readLine
  /-- The content of a file. -/
  | readFile (name : String)
  /-- Text at the end of a file, which is created if it is missing. -/
  | appendFile (name text : String)
  /-- An empty file. -/
  | createFile (name : String)
  /-- From now on log the lines that a level admits, also to a file if one is named. -/
  | startLog (level : Log.Level) (file : Option String)
  /-- A log line. -/
  | log (line : Log.Line)
  /-- The present moment. -/
  | now
  /-- The reading of a clock that runs from some moment on and is never put back. -/
  | instant
  /-- The result of a piece of work and the time that it took. -/
  | measure (work : Work)

/-- The answers to a request. -/
@[reducible] def Request.Answer : Request → Type
  | write _ => Unit
  | complain _ => Unit
  /- Nothing at the end of the input. -/
  | readLine => Option ByteArray
  | readFile _ => Except FileError ByteArray
  | appendFile _ _ => Except FileError Unit
  | createFile _ => Except FileError Unit
  /- Whether this is the first log that was started; a later one is not. -/
  | startLog _ _ => Bool
  | log _ => Unit
  | now => Moment
  | instant => Duration
  | measure _ => Except (Unmet Float) Float × Duration

/-- A dialogue that ends with a result. -/
inductive Dialogue (α : Type) where
  | done (result : α)
  | ask (request : Request) (next : request.Answer → Dialogue α)

namespace Dialogue

variable {α β σ : Type}

/-- One dialogue after another. -/
def andThen : Dialogue α → (α → Dialogue β) → Dialogue β
  | done a, k => k a
  | ask r next, k => ask r fun answer => (next answer).andThen k

instance : Monad Dialogue where
  pure := done
  bind := andThen

/-- A single request. -/
def request (r : Request) : Dialogue r.Answer := ask r done

/-- The result in a world that meets every request, and the world after it. -/
def answeredBy (meet : (r : Request) → σ → r.Answer × σ) : Dialogue α → σ → α × σ
  | done a, w => (a, w)
  | ask r next, w =>
    let (answer, w) := meet r w
    (next answer).answeredBy meet w

@[simp] theorem andThen_done (d : Dialogue α) : d.andThen done = d := by
  induction d with
  | done a => rfl
  | ask r next ih => simp [andThen, ih]

theorem andThen_assoc {γ : Type} (d : Dialogue α) (f : α → Dialogue β) (g : β → Dialogue γ) :
    (d.andThen f).andThen g = d.andThen fun a => (f a).andThen g := by
  induction d with
  | done a => rfl
  | ask r next ih => simp [andThen, ih]

instance : LawfulMonad Dialogue :=
  LawfulMonad.mk' Dialogue (fun d => andThen_done d) (fun _ _ => rfl)
    (fun d f g => andThen_assoc d f g)

/-- A dialogue is answered part by part. -/
theorem answeredBy_bind (meet : (r : Request) → σ → r.Answer × σ) (d : Dialogue α)
    (k : α → Dialogue β) (w : σ) :
    (d >>= k).answeredBy meet w =
      (k (d.answeredBy meet w).1).answeredBy meet (d.answeredBy meet w).2 := by
  induction d generalizing w with
  | done a => rfl
  | ask r next ih => exact ih (meet r w).1 (meet r w).2

/-- Text for the output. -/
def write (text : String) : Dialogue Unit := request (.write text)

/-- Text for the error output. -/
def complain (text : String) : Dialogue Unit := request (.complain text)

/-- A log line. -/
def log (line : Log.Line) : Dialogue Unit := request (.log line)

/-- Log lines in their order. -/
def logAll : List Log.Line → Dialogue Unit
  | [] => pure ()
  | line :: rest => do
    log line
    logAll rest

/-- The content of a file as text. -/
def readText (file : String) : ExceptT FileError Dialogue String := do
  let bytes ← ExceptT.mk (request (.readFile file))
  ExceptT.mk (pure (decode bytes))

end Dialogue

end Quadrature

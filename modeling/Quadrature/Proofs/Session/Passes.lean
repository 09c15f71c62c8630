import Quadrature.Proofs.Session.Endings
import Quadrature.Proofs.Session.Lines

/-!
# The passes of a session

A session takes its input line by line: what it leaves begins with the first line that it did not
ask for, whether or not the lines before could be read. A pass that is not the last one has taken a
line, so a run ends after at most one pass more than there are lines. Nothing that goes wrong with a
task ends the run, unless a computation stops the program.

* `inputLines_answer`: **a dialogue takes the lines that it asks for.**
* `ends_attempt`: what can stop a task.
* `Menu.fares`: **one pass**.
* `Menu.run_survives`: **a run**.
-/

namespace Quadrature

open Text Dialogue Attempt World

/-! ### Lines that are asked for -/

/-- How many lines a request takes. -/
def Request.lines : Request → Nat
  | readLine => 1
  | _ => 0

/-- How many lines a dialogue asks for in a world. -/
def Dialogue.asked {α : Type} : Dialogue α → World → Nat
  | done _, _ => 0
  | ask r next, w => r.lines + (next (meet r w).1).asked (meet r w).2

section Asked

variable {α β : Type}

theorem asked_bind (d : Dialogue α) (k : α → Dialogue β) (w : World) :
    (d >>= k).asked w = d.asked w + (k (w.answer d).1).asked (w.answer d).2 := by
  induction d generalizing w with
  | done a => exact (Nat.zero_add _).symm
  | ask r next ih =>
    have hnext := ih (meet r w).1 (meet r w).2
    change r.lines + (next (meet r w).1 >>= k).asked (meet r w).2 = r.lines + _ + _
    rw [hnext, ← Nat.add_assoc]
    rfl

/-- A request takes its lines from the front of the input. -/
theorem inputLines_meet (r : Request) (w : World) :
    inputLines (meet r w).2.input = (inputLines w.input).drop r.lines := by
  cases r with
  | readLine =>
    unfold meet
    cases hw : w.input with
    | nil => simp [hw, inputLines_nil]
    | cons b input =>
      rw [inputLines_of_ne_nil (List.cons_ne_nil b input)]
      rfl
  | log line => rw [show (meet (.log line) w).2.input = w.input from (w.logged_cases line).1]; rfl
  | appendFile | createFile | startLog =>
    dsimp only [meet]
    split <;> rfl
  | write | complain | readFile | now | instant | measure => rfl

/-- **A dialogue takes the lines that it asks for**, and what it leaves begins with the next one. -/
theorem inputLines_answer (d : Dialogue α) (w : World) :
    inputLines (w.answer d).2.input = (inputLines w.input).drop (d.asked w) := by
  induction d generalizing w with
  | done a => rfl
  | ask r next ih =>
    have hnext := ih (meet r w).1 (meet r w).2
    rw [inputLines_meet, List.drop_drop] at hnext
    exact hnext

end Asked

/-! ### What stops a task -/

/-- The text of a computation that was called outside of its precondition. -/
def StopsWith (text : String) : Prop :=
  (∃ p : CapacityOverflow, text = p.message) ∨ ∃ u : Unmet Float, text = u.message

/-- An attempt that ends early is rejected or stopped by a computation. -/
def Ending.Stops : Ending → Prop
  | .rejected _ => True
  | .unmet text => StopsWith text

theorem Unfinished.stops {s : Settings} {integrand interval : String} {n : Nat} {e : Ending}
    (h : Unfinished s integrand interval n e) : e.Stops := by
  cases h with
  | integrand | interval | compile | request => trivial
  | capacity p => exact .inl ⟨p, rfl⟩
  | sums u => exact .inr ⟨u, rfl⟩

section Stops

variable {s : Settings}

theorem ends_integrateEntry (e : Entry) : (integrateEntry s e).Ends (Only Ending.Stops) := by
  unfold integrateEntry
  refine .bind_only (.onFile_only fun _ => trivial) fun answer => ?_
  cases answer with
  | none => exact .pure (only_ok _)
  | some answer =>
    refine .bind_only (.check_only fun _ _ => trivial) fun n => ?_
    refine .bind_only ?_ fun report => .say_only _
    intro w e he
    exact (ends_integrateText s _ _ n w e he).stops

/-- **Only a computation can stop a task**; whatever else goes wrong is a fault. -/
theorem ends_attempt {c : Menu.Choice} {attempt : Attempt Unit}
    (h : c.attempt? s = some attempt) : attempt.Ends (Only Ending.Stops) := by
  have hfile : ∀ {α : Type} (d : ExceptT FileError Dialogue α),
      (onFile d).Ends (Only Ending.Stops) := fun d => .onFile_only fun _ => trivial
  cases c with
  | integrateNew =>
    obtain rfl := Option.some.inj h
    unfold integrateNew
    refine .bind_only (hfile _) fun typed => ?_
    cases typed with
    | none => exact .pure (only_ok _)
    | some typed =>
      refine .bind_only (.check_only fun _ _ => trivial) fun integrand => ?_
      refine .bind_only (hfile _) fun start => ?_
      cases start with
      | none => exact .pure (only_ok _)
      | some start =>
        refine .bind_only (hfile _) fun stop => ?_
        cases stop with
        | none => exact .pure (only_ok _)
        | some stop => exact .bind_only (hfile _) fun _ => ends_integrateEntry _
  | integrateLast =>
    obtain rfl := Option.some.inj h
    unfold integrateLast
    refine .bind_only (hfile _) fun entry => ?_
    cases entry with
    | none => exact .say_only _
    | some e =>
      refine .bind_only (.say_only _) fun _ => ?_
      exact .bind_only (.say_only _) fun _ => ends_integrateEntry e
  | listSaved =>
    obtain rfl := Option.some.inj h
    exact .bind_only (hfile _) fun text => .say_only _
  | exit => cases h

end Stops

/-! ### One pass -/

namespace Menu

/-- What is chosen in a world; the end of the input is the choice to leave. -/
def chosen (w : World) : Except FileError Choice :=
  match inputLines w.input with
  | [] => .ok .exit
  | line :: _ => (answerOf line).map .ofAnswer

/-- The world in which a task begins. -/
def afterChoice (w : World) : World :=
  ((w.answer (ask question).run).2.answer (write "\n")).2

variable {s : Settings} {w : World}

/-- The answer to the menu. -/
theorem answer_question (w : World) : (w.answer (ask question).run).1.map
    (fun answer => (answer.map Choice.ofAnswer).getD .exit) = chosen w := by
  unfold chosen
  by_cases h : w.input = []
  · rw [answer_ask_end question h, h, inputLines_nil]
    rfl
  · rw [answer_ask question h, inputLines_of_ne_nil h]
    dsimp only [answerOf]
    cases decode (packed (nextLine w.input).1) <;> rfl

/-- **What a pass does** with what is chosen. -/
theorem pass_eq (s : Settings) (w : World) : w.answer (pass s) = match chosen w with
    | .error e => (.unreadable e, (w.answer (ask question).run).2)
    | .ok c => match c.attempt? s with
      | none => (.left, (afterChoice w).logged (Log.info "exit"))
      | some attempt => (afterChoice w).answer (attempt.run >>= afterAttempt) := by
  have hchosen := answer_question w
  unfold pass
  rw [World.answer_bind]
  cases hanswer : (w.answer (ask question).run).1 with
  | error e =>
    rw [hanswer] at hchosen
    rw [← hchosen]
    rfl
  | ok answer =>
    rw [hanswer] at hchosen
    rw [← hchosen]
    dsimp only [Except.map]
    rw [World.answer_bind]
    cases ((answer.map Choice.ofAnswer).getD .exit).attempt? s <;> rfl

/-- **What comes after a pass**: an end that was chosen or is due to the choice, or whatever the
task leaves, which is another pass unless a computation stopped it. -/
inductive Follows (s : Settings) (w : World) : Next → Prop
  | unreadable {e : FileError} (h : chosen w = .error e) : Follows s w (.unreadable e)
  | left (h : chosen w = .ok .exit) : Follows s w .left
  | again {c : Choice} {attempt : Attempt Unit} (h : chosen w = .ok c)
    (hattempt : c.attempt? s = some attempt)
    (hend : ∀ text, ((afterChoice w).answer attempt.run).1 ≠ .error (.unmet text)) :
    Follows s w .again
  | stopped {c : Choice} {attempt : Attempt Unit} {text : String} (h : chosen w = .ok c)
    (hattempt : c.attempt? s = some attempt)
    (hend : ((afterChoice w).answer attempt.run).1 = .error (.unmet text))
    (htext : StopsWith text) : Follows s w (.stopped text)

theorem follows (s : Settings) (w : World) : Follows s w (w.answer (pass s)).1 := by
  rw [pass_eq]
  cases hchosen : chosen w with
  | error e => exact .unreadable hchosen
  | ok c =>
    dsimp only
    cases hattempt : c.attempt? s with
    | none =>
      cases c with
      | exit => exact .left hchosen
      | integrateNew | integrateLast | listSaved => cases hattempt
    | some attempt =>
      dsimp only
      rw [World.answer_bind]
      cases hend : ((afterChoice w).answer attempt.run).1 with
      | ok => exact .again hchosen hattempt (by simp [hend])
      | error e =>
        cases e with
        | rejected fault => exact .again hchosen hattempt (by simp [hend])
        | unmet text =>
          have htext : StopsWith text := ends_attempt hattempt _ _ hend
          exact .stopped hchosen hattempt hend htext

/-- How a pass fares in a world. -/
structure Fares (s : Settings) (w : World) : Prop where
  /-- What it leaves begins with the first line that it did not ask for. -/
  rest : (w.answer (pass s)).2.input = ((inputLines w.input).drop ((pass s).asked w)).flatten
  /-- It is the last one, or it has taken a line. -/
  takes : (w.answer (pass s)).1 = .again →
    (inputLines (w.answer (pass s)).2.input).length < (inputLines w.input).length
  /-- What comes after it. -/
  follows : Follows s w (w.answer (pass s)).1

/-- A pass begins with a question. -/
theorem one_le_asked_pass (s : Settings) (w : World) : 1 ≤ (pass s).asked w := by
  unfold pass
  rw [asked_bind]
  refine Nat.le_add_right_of_le ?_
  change 1 ≤ 0 + (1 + _)
  omega

/-- **One pass.** -/
theorem fares (s : Settings) (w : World) : Fares s w where
  rest := by rw [← inputLines_answer, flatten_inputLines]
  takes h := by
    have hne : w.input ≠ [] := by
      rw [← List.length_pos_iff]
      exact Nat.lt_of_le_of_lt (Nat.zero_le _) (pass_input_lt h)
    have hone := one_le_asked_pass s w
    rw [inputLines_answer, List.length_drop, inputLines_of_ne_nil hne, List.length_cons]
    omega
  follows := follows s w

/-- An integrand that is not text is taken from the input like any other line. -/
example :
    let w := World.fresh ([0x31, 0x0a] ++ [0xff, 0x0a] ++ [0x30, 0x0a]) []
    (w.answer (pass .default)).1 = .again ∧ (w.answer (pass .default)).2.input = [0x30, 0x0a] := by
  decide +kernel

/-! ### A run -/

/-- So many passes lead from one world to another, and each of them is followed by another one. -/
inductive Passes (s : Settings) : Nat → World → World → Prop
  | zero (w : World) : Passes s 0 w w
  | succ {n : Nat} {w v : World} (h : (w.answer (pass s)).1 = .again)
    (hrest : Passes s n (w.answer (pass s)).2 v) : Passes s (n + 1) w v

/-- A run is passes and a last one, no more than there are lines and one. -/
theorem run_passes (s : Settings) (w : World) : ∃ n v, n ≤ (inputLines w.input).length ∧
    Passes s n w v ∧ run s w = v.answer (pass s) ∧ (v.answer (pass s)).1 ≠ .again := by
  rw [run_eq]
  by_cases h : (w.answer (pass s)).1 = .again
  · have hlt := (fares s w).takes h
    obtain ⟨n, v, hn, hpasses, hrun, hlast⟩ := run_passes s (w.answer (pass s)).2
    rw [if_pos h]
    exact ⟨n + 1, v, Nat.lt_of_le_of_lt hn hlt, .succ h hpasses, hrun, hlast⟩
  · rw [if_neg h]
    exact ⟨0, w, Nat.zero_le _, .zero w, rfl, h⟩
termination_by w.input.length
decreasing_by exact pass_input_lt h

/-- **A session survives everything but a computation that stops it.** Each of its passes takes a
line or is the last one, and leaves the input at the first line that it did not ask for; there is at
most one pass more than there are lines. The menu comes back after every task, whatever went wrong;
the session ends where that is chosen, at the end of the input, or with a choice that is not text. -/
theorem run_survives (s : Settings) (w : World) :
    (∀ u : World, Fares s u) ∧
    ∃ n v, n ≤ (inputLines w.input).length ∧ Passes s n w v ∧ run s w = v.answer (pass s) ∧
      match (run s w).1 with
      | .again => False
      | .left => chosen v = .ok .exit
      | .unreadable e => chosen v = .error e
      | .stopped text => StopsWith text := by
  obtain ⟨n, v, hn, hpasses, hrun, hlast⟩ := run_passes s w
  refine ⟨fares s, n, v, hn, hpasses, hrun, ?_⟩
  rw [hrun]
  have hfollows := follows s v
  generalize (v.answer (pass s)).1 = next at hfollows hlast
  cases hfollows with
  | unreadable h => exact h
  | left h => exact h
  | again => exact absurd rfl hlast
  | stopped h hattempt hend htext => exact htext

end Menu

end Quadrature

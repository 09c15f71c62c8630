import Quadrature.Proofs.Integral.Outcome
import Quadrature.Proofs.Session.Quiet

/-!
# The sums of a session

A session measures each sum as it takes it, so it takes them one by one, between readings of its
clock. What it gets is what `integrate` gives, and what it logs is what `integrateLogged` says,
followed by the lines about the times.

* `Attempt.Logs`: the result of an attempt and the log lines that it adds, in every world.
* `integrateLogged_fst`: the sums with and without log lines.
* `logs_integrateTimed`: **the sums of a session, and what it logs about them.**
-/

namespace Quadrature

open Dialogue Attempt

variable {α β ε : Type}

/-- A log line is one more line, wherever it is written to. -/
theorem World.lines_logged (w : World) (l : Log.Line) : (w.logged l).lines = w.lines ++ [l] := by
  unfold logged
  rcases w.sink with _ | ⟨level, file⟩
  · rfl
  dsimp only
  cases Log.Threshold.admits (some level) l.level with
  | false => rfl
  | true =>
    by_cases herror : l.level = .error
    all_goals rcases file with _ | ⟨name, place⟩
    all_goals simp [herror]

namespace Attempt

/-- In every world an attempt has this result and adds these log lines. -/
def Logs (x : Attempt α) (r : Except Ending α) (lines : List Log.Line) : Prop :=
  ∀ w : World, (w.answer x.run).1 = r ∧ (w.answer x.run).2.lines = w.lines ++ lines

namespace Logs

variable {x : Attempt α} {f : α → Attempt β} {a : α} {e : Ending} {r : Except Ending β}
  {lines more : List Log.Line}

theorem pure (a : α) : Logs (Pure.pure a) (.ok a) [] := fun _ => ⟨rfl, (List.append_nil _).symm⟩

/-- One attempt after another. -/
theorem bind_ok (hx : x.Logs (.ok a) lines) (hf : (f a).Logs r more) :
    (x >>= f).Logs r (lines ++ more) := by
  intro w
  obtain ⟨hresult, hlines⟩ := hx w
  rw [ExceptT.run_bind, World.answer_bind, hresult, ← List.append_assoc, ← hlines]
  exact hf _

theorem bind_error (hx : x.Logs (.error e) lines) : (x >>= f).Logs (.error e) lines := by
  intro w
  obtain ⟨hresult, hlines⟩ := hx w
  rw [ExceptT.run_bind, World.answer_bind, hresult]
  exact ⟨rfl, hlines⟩

theorem say {d : Dialogue α} (h : ∀ w : World, (w.answer d).1 = a ∧
    (w.answer d).2.lines = w.lines ++ lines) : Logs (Attempt.say d) (.ok a) lines := by
  intro w
  change (w.answer (d >>= fun a => Pure.pure (Except.ok a))).1 = _ ∧
    (w.answer (d >>= fun a => Pure.pure (Except.ok a))).2.lines = _
  rw [World.answer_bind]
  exact ⟨congrArg Except.ok (h w).1, (h w).2⟩

theorem log (l : Log.Line) : Logs (Attempt.say (Dialogue.log l)) (.ok ()) [l] :=
  .say fun w => ⟨rfl, w.lines_logged l⟩

theorem logAll (ls : List Log.Line) : Logs (Attempt.say (Dialogue.logAll ls)) (.ok ()) ls := by
  refine .say fun w => ⟨rfl, ?_⟩
  induction ls generalizing w with
  | nil => exact (List.append_nil _).symm
  | cons l ls ih =>
    have hrest := ih (w.logged l)
    rw [w.lines_logged, List.append_assoc] at hrest
    exact hrest

/-- A request that leaves the world as it is. -/
theorem request {r : Request} {answer : r.Answer} (h : ∀ w, World.meet r w = (answer, w)) :
    Logs (Attempt.say (Dialogue.request r)) (.ok answer) [] := by
  refine .say fun w => ?_
  have hanswer : w.answer (Dialogue.request r) = (answer, w) := h w
  rw [hanswer, List.append_nil]
  exact ⟨rfl, rfl⟩

/-- The clock stands still. -/
theorem instant : Logs (Attempt.say (Dialogue.request .instant)) (.ok Duration.zero) [] :=
  .request fun _ => rfl

/-- Work takes no time. -/
theorem measure (work : Work) : Logs (Attempt.say (Dialogue.request (.measure work)))
    (.ok (work (), Duration.zero)) [] :=
  .request fun _ => rfl

theorem check (fault : ε → Fault) (r : Except ε α) :
    Logs (Attempt.check fault r) (r.mapError fun e => .rejected (fault e)) [] := by
  intro w
  cases r <;> exact ⟨rfl, (List.append_nil _).symm⟩

theorem require (text : ε → String) (r : Except ε α) :
    Logs (Attempt.require text r) (r.mapError fun e => .unmet (text e)) [] := by
  intro w
  cases r <;> exact ⟨rfl, (List.append_nil _).symm⟩

theorem measured_ok (work : Work) {x : Float} (h : work () = .ok x) :
    Logs (Quadrature.measured work) (.ok (x, Duration.zero)) [] := by
  refine (Logs.measure work).bind_ok ?_
  rw [h]
  exact (Logs.require Unmet.message (.ok x)).bind_ok (.pure _)

theorem measured_error (work : Work) {u : Unmet Float} (h : work () = .error u) :
    Logs (Quadrature.measured work) (.error (.unmet u.message)) [] := by
  refine (Logs.measure work).bind_ok ?_
  rw [h]
  exact (Logs.require Unmet.message (.error u)).bind_error

end Logs

end Attempt

/-- The sums with and without log lines. -/
theorem integrateLogged_fst [Elementary α] [Literal α] (s : Fineness α) (e : Expr α)
    (start stop : α) : (integrateLogged s e start stop).1 =
      integrate s (fun x => e.eval x) start stop := by
  unfold integrateLogged
  cases hplan : Plan.ofRequest s start stop with
  | error r =>
    unfold integrate
    rw [hplan]
    rfl
  | ok plan =>
    rw [integrate_of_plan hplan]
    dsimp only
    cases plan.sums fun x => e.eval x <;> rfl

/-- **The sums of a session, and what it logs about them.** They are those of `integrateLogged`, and
if there are sums, the lines about the times follow. -/
theorem logs_integrateTimed (s : Fineness Float) (e : Expr Float) (start stop : Float) :
    match integrateLogged s e start stop with
    | (.ok sums, lines) => (integrateTimed s e start stop).Logs (.ok (sums, Timings.zero))
        (lines ++ Timings.zero.lines Duration.zero)
    | (.error (.rejected r), lines) =>
      (integrateTimed s e start stop).Logs (.error (.rejected (.rejected r))) lines
    | (.error (.unmet u), lines) =>
      (integrateTimed s e start stop).Logs (.error (.unmet u.message)) lines := by
  unfold integrateLogged integrateTimed
  cases Plan.ofRequest s start stop with
  | error r => exact (Logs.check Fault.rejected (.error r)).bind_error
  | ok plan =>
    have hplan := Logs.check Fault.rejected (.ok plan)
    have hstart := Logs.log (plan.startLine e)
    dsimp only
    unfold Plan.sums
    -- the sums are taken one after another, and the first one that fails ends the attempt
    cases hriemann : plan.riemann fun x => e.eval x with
    | error u =>
      have hfirst := Logs.measured_error (fun _ => plan.riemann fun x => e.eval x) hriemann
      exact hplan.bind_ok (hstart.bind_ok (Logs.instant.bind_ok hfirst.bind_error))
    | ok riemann =>
      have hfirst := Logs.measured_ok (fun _ => plan.riemann fun x => e.eval x) hriemann
      cases hlower : plan.darboux .min fun x => e.eval x with
      | error u =>
        have hsecond := Logs.measured_error (fun _ => plan.darboux .min fun x => e.eval x) hlower
        exact hplan.bind_ok (hstart.bind_ok (Logs.instant.bind_ok
          (hfirst.bind_ok hsecond.bind_error)))
      | ok lower =>
        have hsecond := Logs.measured_ok (fun _ => plan.darboux .min fun x => e.eval x) hlower
        cases hupper : plan.darboux .max fun x => e.eval x with
        | error u =>
          have hthird := Logs.measured_error (fun _ => plan.darboux .max fun x => e.eval x) hupper
          exact hplan.bind_ok (hstart.bind_ok (Logs.instant.bind_ok
            (hfirst.bind_ok (hsecond.bind_ok hthird.bind_error))))
        | ok upper =>
          have hthird := Logs.measured_ok (fun _ => plan.darboux .max fun x => e.eval x) hupper
          have hsums := Logs.log (Sums.line ⟨riemann, lower, upper⟩)
          have htimes := Logs.logAll (Timings.zero.lines Duration.zero)
          have hend := htimes.bind_ok
            (f := fun _ => pure (plan.orient ⟨riemann, lower, upper⟩, Timings.zero)) (.pure _)
          rw [List.append_nil] at hend
          exact hplan.bind_ok (hstart.bind_ok (Logs.instant.bind_ok
            (hfirst.bind_ok (hsecond.bind_ok (hthird.bind_ok
              (hsums.bind_ok (Logs.instant.bind_ok hend)))))))

end Quadrature

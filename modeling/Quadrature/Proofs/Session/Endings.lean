import Quadrature.Proofs.Session.Quiet

/-!
# How attempts end

What becomes of an attempt in any world follows from what becomes of its parts: an early end of one
of them is the end of all. An integral has six ways to end early (`Unfinished`), each with the check
that it did not pass.

* `Attempt.Ends`: with a rule for each part of an attempt.
* `ends_integrateText_of`, `ends_integrateText`: **the ways in which an integral ends early.**
-/

namespace Quadrature

open Dialogue Attempt

variable {α β ε : Type}

namespace Attempt

/-- In any world an attempt ends like this. -/
def Ends (x : Attempt α) (Q : Except Ending α → Prop) : Prop := ∀ w : World, Q (w.answer x.run).1

namespace Ends

variable {Q : Except Ending α → Prop}

theorem pure {a : α} (h : Q (.ok a)) : Ends (Pure.pure a) Q := fun _ => h

/-- One attempt after another; an early end is the end of both. -/
theorem bind {x : Attempt β} {f : β → Attempt α} (R : β → Prop)
    (hx : x.Ends fun r => match r with
      | .ok b => R b
      | .error e => Q (.error e))
    (hf : ∀ b, R b → (f b).Ends Q) : Ends (x >>= f) Q := by
  intro w
  have hw := hx w
  rw [ExceptT.run_bind, World.answer_bind]
  generalize w.answer x.run = after at hw
  obtain ⟨r, w⟩ := after
  cases r with
  | error e => exact hw
  | ok b => exact hf b hw w

theorem say {d : Dialogue α} (h : ∀ a, Q (.ok a)) : Ends (Attempt.say d) Q := by
  intro w
  change Q (w.answer (d >>= fun a => Pure.pure (Except.ok a))).1
  rw [World.answer_bind]
  exact h _

theorem check {fault : ε → Fault} {r : Except ε α} (hok : ∀ a, r = .ok a → Q (.ok a))
    (herror : ∀ e, r = .error e → Q (.error (.rejected (fault e)))) :
    Ends (Attempt.check fault r) Q := by
  intro w
  cases r with
  | ok a => exact hok a rfl
  | error e => exact herror e rfl

theorem require {text : ε → String} {r : Except ε α} (hok : ∀ a, r = .ok a → Q (.ok a))
    (herror : ∀ e, r = .error e → Q (.error (.unmet (text e)))) :
    Ends (Attempt.require text r) Q := by
  intro w
  cases r with
  | ok a => exact hok a rfl
  | error e => exact herror e rfl

theorem onFile {d : ExceptT FileError Dialogue α} (hok : ∀ a, Q (.ok a))
    (herror : ∀ e, Q (.error (.rejected (.file e)))) : Ends (Attempt.onFile d) Q := by
  unfold Attempt.onFile
  refine .bind (fun _ => True) (.say fun _ => trivial) ?_
  intro r _
  exact .check (fun a _ => hok a) fun e _ => herror e

end Ends

end Attempt

/-- The outcome is no early end but one of this kind. -/
def Only (P : Ending → Prop) (r : Except Ending α) : Prop := ∀ e, r = .error e → P e

section Only

variable {P : Ending → Prop}

theorem only_ok (a : α) : Only P (.ok a) := by
  intro e h
  cases h

theorem only_error {e : Ending} (h : P e) : Only P (.error e : Except Ending α) := by
  intro e' h'
  obtain rfl := Except.error.inj h'
  exact h

namespace Attempt.Ends

/-- One attempt after another, both of which end early only like this. -/
theorem bind_only {x : Attempt β} {f : β → Attempt α} (hx : x.Ends (Only P))
    (hf : ∀ b, (f b).Ends (Only P)) : (x >>= f).Ends (Only P) := by
  refine .bind (fun _ => True) ?_ fun b _ => hf b
  intro w
  have hw := hx w
  generalize (w.answer x.run).1 = r at hw
  cases r with
  | ok b => trivial
  | error e => exact only_error (hw e rfl)

theorem say_only (d : Dialogue α) : (Attempt.say d).Ends (Only P) := .say only_ok

theorem check_only {fault : ε → Fault} {r : Except ε α}
    (h : ∀ e, r = .error e → P (.rejected (fault e))) : (Attempt.check fault r).Ends (Only P) :=
  .check (fun a _ => only_ok a) fun e he => only_error (h e he)

theorem require_only {text : ε → String} {r : Except ε α} (h : ∀ e, P (.unmet (text e))) :
    (Attempt.require text r).Ends (Only P) :=
  .require (fun a _ => only_ok a) fun e _ => only_error (h e)

theorem onFile_only {d : ExceptT FileError Dialogue α} (h : ∀ e, P (.rejected (.file e))) :
    (Attempt.onFile d).Ends (Only P) :=
  .onFile only_ok fun e => only_error (h e)

end Attempt.Ends

end Only

/-! ### Integrals -/

/-- How the integral of an integrand over an interval, in so many parts, ends early. -/
inductive Unfinished (s : Settings) (integrand interval : String) (n : Nat) : Ending → Prop
  | integrand {r : Rejection Float} (h : Integrand.accept integrand = .error r) :
    Unfinished s integrand interval n (.rejected (.rejected r))
  | interval {r : Rejection Float} (h : Interval.read interval = .error r) :
    Unfinished s integrand interval n (.rejected (.rejected r))
  | compile (e : CompileError) : Unfinished s integrand interval n (.rejected (.compile e))
  | capacity (p : CapacityOverflow) : Unfinished s integrand interval n (.unmet p.message)
  | request {start stop : Float} {r : Rejection Float}
    (hread : Interval.read interval = .ok (start, stop))
    (h : Plan.ofRequest { s.fineness with refinement := n } start stop = .error r) :
    Unfinished s integrand interval n (.rejected (.rejected r))
  | sums (u : Unmet Float) : Unfinished s integrand interval n (.unmet u.message)

section Integrals

variable {P : Ending → Prop}

theorem ends_compileText {c : Compiler} {integrand : String}
    (hcompile : ∀ e, compile (α := Float) c (rpnTokens integrand) = .error (.rejected e) →
      P (.rejected (.compile e)))
    (hcapacity : ∀ p : CapacityOverflow, P (.unmet p.message)) :
    (compileText c integrand).Ends (Only P) := by
  unfold compileText compileLogged
  cases houtcome : compile (α := Float) c (rpnTokens integrand) with
  | ok e => exact .bind_only (.say_only _) fun _ => .pure (only_ok _)
  | error f =>
    refine .bind_only (.say_only _) fun _ => ?_
    cases f with
    | rejected e =>
      refine .check_only fun e' he => ?_
      obtain rfl := Except.error.inj he
      exact hcompile _ houtcome
    | unmet p => exact .require_only hcapacity

theorem ends_measured {work : Work} (hunmet : ∀ u : Unmet Float, P (.unmet u.message)) :
    (measured work).Ends (Only P) := by
  refine .bind_only (.say_only _) fun p => ?_
  exact .bind_only (.require_only hunmet) fun x => .pure (only_ok _)

theorem ends_integrateTimed {s : Fineness Float} {e : Expr Float} {start stop : Float}
    (hrequest : ∀ r, Plan.ofRequest s start stop = .error r → P (.rejected (.rejected r)))
    (hsums : ∀ u : Unmet Float, P (.unmet u.message)) :
    (integrateTimed s e start stop).Ends (Only P) := by
  unfold integrateTimed
  refine .bind_only (.check_only hrequest) fun plan => ?_
  refine .bind_only (.say_only _) fun _ => ?_
  refine .bind_only (.say_only _) fun begun => ?_
  refine .bind_only (ends_measured hsums) fun riemann => ?_
  refine .bind_only (ends_measured hsums) fun lower => ?_
  refine .bind_only (ends_measured hsums) fun upper => ?_
  refine .bind_only (.say_only _) fun _ => ?_
  refine .bind_only (.say_only _) fun ended => ?_
  exact .bind_only (.say_only _) fun _ => .pure (only_ok _)

/-- What is true of each way in which an integral ends early. -/
theorem ends_integrateText_of {s : Settings} {integrand interval : String} {n : Nat}
    (hintegrand : ∀ r, Integrand.accept integrand = .error r → P (.rejected (.rejected r)))
    (hinterval : ∀ r, Interval.read interval = .error r → P (.rejected (.rejected r)))
    (hcompile : ∀ text e, Integrand.accept (α := Float) integrand = .ok text →
      compile (α := Float) s.compiler (rpnTokens text) = .error (.rejected e) →
      P (.rejected (.compile e)))
    (hcapacity : ∀ p : CapacityOverflow, P (.unmet p.message))
    (hrequest : ∀ start stop r, Interval.read interval = .ok (start, stop) →
      Plan.ofRequest { s.fineness with refinement := n } start stop = .error r →
      P (.rejected (.rejected r)))
    (hsums : ∀ u : Unmet Float, P (.unmet u.message)) :
    (integrateText s integrand interval n).Ends (Only P) := by
  unfold integrateText
  -- what was accepted is compiled later
  refine .bind (fun text => Integrand.accept (α := Float) integrand = .ok text) ?_ ?_
  · exact .check (fun text h => h) fun r h => only_error (hintegrand r h)
  intro text haccept
  -- the interval is needed later, when its plan is made
  refine .bind (fun bounds => Interval.read interval = .ok bounds) ?_ ?_
  · exact .check (fun bounds h => h) fun r h => only_error (hinterval r h)
  rintro ⟨start, stop⟩ hread
  refine .bind_only (ends_compileText (fun e => hcompile text e haccept) hcapacity) fun e => ?_
  refine .bind_only (ends_integrateTimed (hrequest start stop · hread) hsums) fun r => ?_
  exact .pure (only_ok _)

/-- **The ways in which an integral ends early.** -/
theorem ends_integrateText (s : Settings) (integrand interval : String) (n : Nat) :
    (integrateText s integrand interval n).Ends (Only (Unfinished s integrand interval n)) :=
  ends_integrateText_of (fun _ => .integrand) (fun _ => .interval) (fun _ e _ _ => .compile e)
    .capacity (fun _ _ _ => .request) .sums

end Integrals

end Quadrature

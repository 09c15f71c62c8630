import Quadrature.Session.Menu
import Quadrature.Session.World

/-!
# Reasoning about dialogues

A dialogue **leads** from worlds of one kind to results and worlds of another. It is **quiet** if it
takes nothing from the input and writes no file but the log; whatever a world keeps under the quiet
requests, it keeps under quiet dialogues. It is **blind** if it asks nothing about the world either,
so that its result is the same in every world. All of an integration is blind.

* `Dialogue.Leads`: with the rules for one dialogue after another.
* `Dialogue.Quiet.leads`: **what quiet requests keep, quiet dialogues keep.**
* `Dialogue.Blind.answer_eq`: **the result of a blind dialogue is the same in every world.**
* `blind_integrateText`, `quiet_integrateText`: an integration, whatever becomes of it.
-/

namespace Quadrature

variable {α β ε : Type}

/-- One dialogue after another, one world after another. -/
theorem World.answer_bind (d : Dialogue α) (k : α → Dialogue β) (w : World) :
    w.answer (d >>= k) = (w.answer d).2.answer (k (w.answer d).1) :=
  Dialogue.answeredBy_bind World.meet d k w

namespace Dialogue

/-- From every world of one kind to a result and a world of another. -/
def Leads (d : Dialogue α) (I : World → Prop) (Q : α → World → Prop) : Prop :=
  ∀ w, I w → Q (w.answer d).1 (w.answer d).2

namespace Leads

variable {I J : World → Prop} {Q : β → World → Prop}

theorem pure {a : α} {Q : α → World → Prop} (h : ∀ w, I w → Q a w) :
    Leads (Pure.pure a) I Q :=
  h

theorem bind {d : Dialogue α} {k : α → Dialogue β} {R : α → World → Prop} (hd : d.Leads I R)
    (hk : ∀ a, (k a).Leads (R a) Q) : (d >>= k).Leads I Q := by
  intro w hw
  rw [World.answer_bind]
  exact hk _ _ (hd w hw)

/-- A dialogue whose result is known, and what follows it. -/
theorem bind_eq {d : Dialogue α} {k : α → Dialogue β} {a : α}
    (hd : d.Leads I fun r w => r = a ∧ J w) (hk : (k a).Leads J Q) : (d >>= k).Leads I Q := by
  refine hd.bind ?_
  rintro r w ⟨rfl, hw⟩
  exact hk w hw

/-- The same for dialogues that may end early. -/
theorem run_bind_ok {x : ExceptT ε Dialogue α} {f : α → ExceptT ε Dialogue β} {a : α}
    {Q : Except ε β → World → Prop} (hx : x.run.Leads I fun r w => r = .ok a ∧ J w)
    (hf : (f a).run.Leads J Q) : (x >>= f).run.Leads I Q := by
  rw [ExceptT.run_bind]
  exact hx.bind_eq hf

theorem run_bind_error {x : ExceptT ε Dialogue α} {f : α → ExceptT ε Dialogue β} {e : ε}
    {Q : Except ε β → World → Prop} (hx : x.run.Leads I fun r w => r = .error e ∧ J w)
    (he : ∀ w, J w → Q (.error e) w) : (x >>= f).run.Leads I Q := by
  rw [ExceptT.run_bind]
  exact hx.bind_eq he

end Leads

end Dialogue

/-- A request that takes nothing from the input and writes no file but the log. -/
inductive Request.IsQuiet : Request → Prop
  | write (text : String) : IsQuiet (.write text)
  | complain (text : String) : IsQuiet (.complain text)
  | readFile (name : String) : IsQuiet (.readFile name)
  | log (line : Log.Line) : IsQuiet (.log line)
  | now : IsQuiet .now
  | instant : IsQuiet .instant
  | measure (work : Work) : IsQuiet (.measure work)

namespace Dialogue

/-- A dialogue of quiet requests. -/
inductive Quiet : Dialogue α → Prop
  | done (a : α) : Quiet (.done a)
  | ask {r : Request} {next : r.Answer → Dialogue α} (hr : r.IsQuiet)
    (hnext : ∀ answer, Quiet (next answer)) : Quiet (.ask r next)

namespace Quiet

theorem request {r : Request} (h : r.IsQuiet) : Quiet (Dialogue.request r) :=
  .ask h .done

theorem bind {d : Dialogue α} {k : α → Dialogue β} (hd : Quiet d) (hk : ∀ a, Quiet (k a)) :
    Quiet (d >>= k) := by
  induction hd with
  | done a => exact hk a
  | ask hr _ ih => exact .ask hr ih

/-- The same for dialogues that may end early. -/
theorem run_bind {x : ExceptT ε Dialogue α} {f : α → ExceptT ε Dialogue β} (hx : Quiet x.run)
    (hf : ∀ a, Quiet (f a).run) : Quiet (x >>= f).run := by
  rw [ExceptT.run_bind]
  refine hx.bind ?_
  intro r
  cases r with
  | ok a => exact hf a
  | error e => exact .done _

/-- **What quiet requests keep, quiet dialogues keep.** -/
theorem leads {I : World → Prop} (hI : ∀ r w, Request.IsQuiet r → I w → I (World.meet r w).2)
    {d : Dialogue α} (hd : Quiet d) : d.Leads I fun _ => I := by
  induction hd with
  | done a => exact fun w hw => hw
  | ask hr _ ih => exact fun w hw => ih _ _ (hI _ w hr hw)

end Quiet

end Dialogue

/-- A request whose answer does not depend on the world. -/
inductive Request.IsBlind : Request → Prop
  | write (text : String) : IsBlind (.write text)
  | complain (text : String) : IsBlind (.complain text)
  | log (line : Log.Line) : IsBlind (.log line)
  | instant : IsBlind .instant
  | measure (work : Work) : IsBlind (.measure work)

namespace Request.IsBlind

variable {r : Request}

theorem isQuiet (h : r.IsBlind) : r.IsQuiet := by
  cases h with
  | write text => exact .write text
  | complain text => exact .complain text
  | log line => exact .log line
  | instant => exact .instant
  | measure work => exact .measure work

theorem answer_eq (h : r.IsBlind) (w w' : World) : (World.meet r w).1 = (World.meet r w').1 := by
  cases h <;> rfl

end Request.IsBlind

namespace Dialogue

/-- A dialogue that asks nothing about the world. -/
inductive Blind : Dialogue α → Prop
  | done (a : α) : Blind (.done a)
  | ask {r : Request} {next : r.Answer → Dialogue α} (hr : r.IsBlind)
    (hnext : ∀ answer, Blind (next answer)) : Blind (.ask r next)

namespace Blind

theorem request {r : Request} (h : r.IsBlind) : Blind (Dialogue.request r) :=
  .ask h .done

theorem bind {d : Dialogue α} {k : α → Dialogue β} (hd : Blind d) (hk : ∀ a, Blind (k a)) :
    Blind (d >>= k) := by
  induction hd with
  | done a => exact hk a
  | ask hr _ ih => exact .ask hr ih

/-- The same for dialogues that may end early. -/
theorem run_bind {x : ExceptT ε Dialogue α} {f : α → ExceptT ε Dialogue β} (hx : Blind x.run)
    (hf : ∀ a, Blind (f a).run) : Blind (x >>= f).run := by
  rw [ExceptT.run_bind]
  refine hx.bind ?_
  intro r
  cases r with
  | ok a => exact hf a
  | error e => exact .done _

theorem quiet {d : Dialogue α} (h : Blind d) : Quiet d := by
  induction h with
  | done a => exact .done a
  | ask hr _ ih => exact .ask hr.isQuiet ih

/-- **The result is the same in every world.** -/
theorem answer_eq {d : Dialogue α} (h : Blind d) (w w' : World) :
    (w.answer d).1 = (w'.answer d).1 := by
  induction h generalizing w w' with
  | done a => rfl
  | @ask r next hr _ ih =>
    change ((World.meet r w).2.answer (next (World.meet r w).1)).1 =
      ((World.meet r w').2.answer (next (World.meet r w').1)).1
    rw [hr.answer_eq w w']
    exact ih _ _ _

end Blind

end Dialogue

open Dialogue Attempt

/-! ### Parts of attempts -/

theorem leads_say {d : Dialogue α} {a : α} {I J : World → Prop}
    (h : d.Leads I fun r w => r = a ∧ J w) :
    (say d).run.Leads I fun r w => r = .ok a ∧ J w := by
  change (d >>= fun a => pure (Except.ok a)).Leads I _
  exact h.bind_eq fun _ hw => ⟨rfl, hw⟩

/-- A dialogue about files as an attempt. -/
theorem leads_onFile {d : ExceptT FileError Dialogue α} {r : Except FileError α}
    {I J : World → Prop} (h : d.run.Leads I fun r' w => r' = r ∧ J w) :
    (onFile d).run.Leads I fun r' w =>
      r' = r.mapError (fun e => Failure.rejected (Fault.file e)) ∧ J w := by
  unfold onFile
  refine Leads.run_bind_ok (leads_say h) ?_
  cases r <;> exact fun w hw => ⟨rfl, hw⟩

theorem leads_check {fault : ε → Fault} {a : α} {I : World → Prop} :
    (check fault (.ok a)).run.Leads I fun r w => r = .ok a ∧ I w :=
  fun _ hw => ⟨rfl, hw⟩

/-! ### Quiet attempts -/

theorem quiet_say {d : Dialogue α} (h : Quiet d) : Quiet (say d).run :=
  h.bind fun _ => .done _

theorem quiet_check (fault : ε → Fault) (r : Except ε α) : Quiet (check fault r).run := by
  cases r <;> exact .done _

theorem quiet_onFile {d : ExceptT FileError Dialogue α} (h : Quiet d.run) :
    Quiet (onFile d).run :=
  (quiet_say h).run_bind fun r => quiet_check .file r

theorem quiet_afterAttempt (r : Except Ending Unit) : Quiet (Menu.afterAttempt r) := by
  rcases r with (fault | text) | _
  · exact .bind (.request (.log _)) fun _ => .bind (.request (.write _)) fun _ => .done _
  · exact .done _
  · exact .done _

/-! ### Integrations -/

theorem blind_logAll (lines : List Log.Line) : Blind (logAll lines) := by
  induction lines with
  | nil => exact .done ()
  | cons line rest ih => exact .bind (.request (.log line)) fun _ => ih

theorem blind_say {d : Dialogue α} (h : Blind d) : Blind (say d).run :=
  h.bind fun _ => .done _

theorem blind_check (fault : ε → Fault) (r : Except ε α) : Blind (check fault r).run := by
  cases r <;> exact .done _

theorem blind_require (text : ε → String) (r : Except ε α) : Blind (require text r).run := by
  cases r <;> exact .done _

theorem blind_compileText (c : Compiler) (integrand : String) :
    Blind (compileText c integrand).run := by
  unfold compileText
  refine .run_bind (blind_say (blind_logAll _)) ?_
  intro _
  split
  · exact .done _
  · exact blind_check _ _
  · exact blind_require _ _

theorem blind_measured (work : Work) : Blind (measured work).run := by
  refine .run_bind (blind_say (.request (.measure work))) ?_
  rintro ⟨outcome, time⟩
  exact .run_bind (blind_require _ outcome) fun _ => .done _

theorem blind_integrateTimed (s : Fineness Float) (e : Expr Float) (start stop : Float) :
    Blind (integrateTimed s e start stop).run := by
  unfold integrateTimed
  refine .run_bind (blind_check _ _) fun plan => ?_
  refine .run_bind (blind_say (.request (.log _))) fun _ => ?_
  refine .run_bind (blind_say (.request .instant)) fun begun => ?_
  refine .run_bind (blind_measured _) fun riemann => ?_
  refine .run_bind (blind_measured _) fun lower => ?_
  refine .run_bind (blind_measured _) fun upper => ?_
  refine .run_bind (blind_say (.request (.log _))) fun _ => ?_
  refine .run_bind (blind_say (.request .instant)) fun ended => ?_
  exact .run_bind (blind_say (blind_logAll _)) fun _ => .done _

/-- **An integration asks nothing about the world.** -/
theorem blind_integrateText (s : Settings) (integrand interval : String) (refinement : Nat) :
    Blind (integrateText s integrand interval refinement).run := by
  unfold integrateText
  refine .run_bind (blind_check _ _) fun integrand => ?_
  refine .run_bind (blind_check _ _) fun bounds => ?_
  refine .run_bind (blind_compileText _ _) fun e => ?_
  exact .run_bind (blind_integrateTimed _ _ _ _) fun r => .done _

/-- **An integration is quiet**, whatever becomes of it. -/
theorem quiet_integrateText (s : Settings) (integrand interval : String) (refinement : Nat) :
    Quiet (integrateText s integrand interval refinement).run :=
  (blind_integrateText s integrand interval refinement).quiet

end Quadrature

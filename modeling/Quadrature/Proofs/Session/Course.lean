import Quadrature.Proofs.Session.Lines

/-!
# The course of a dialogue

In a world a dialogue makes one request after another. On its way it **comes** to other dialogues,
namely what is left of it in later worlds, and it may **prompt**, that is write a certain text. A
question is both: it writes its text, and it comes to what is done with the next line of the input.

* `Dialogue.Comes`, `Comes.answer_eq`: **the rest of a dialogue has its result.**
* `Dialogue.prompts`, `prompts_bind`: what is written, part by part.
* `answer_ask_line`, `prompts_ask`: **a question**.
-/

namespace Quadrature

open Text Dialogue Attempt World

variable {α β ε : Type}

/-- Whether a request writes a text. -/
def Request.writes (text : String) : Request → Bool
  | write t => t == text
  | _ => false

namespace Dialogue

/-! ### What is left of a dialogue -/

/-- On its way in a world a dialogue comes to another one in a later world. -/
inductive Comes : Dialogue α → World → Dialogue α → World → Prop
  | refl (d : Dialogue α) (w : World) : Comes d w d w
  | ask {r : Request} {next : r.Answer → Dialogue α} {w v : World} {d : Dialogue α}
    (h : Comes (next (meet r w).1) (meet r w).2 d v) : Comes (.ask r next) w d v

namespace Comes

variable {w v : World}

theorem trans {d d' d'' : Dialogue α} {u : World} (h : Comes d w d' v) (h' : Comes d' v d'' u) :
    Comes d w d'' u := by
  induction h with
  | refl => exact h'
  | ask _ ih => exact .ask (ih h')

theorem bind {d : Dialogue α} {k : α → Dialogue β} {d' : Dialogue β}
    (h : Comes (k (w.answer d).1) (w.answer d).2 d' v) : Comes (d >>= k) w d' v := by
  induction d generalizing w with
  | done a => exact h
  | ask r next ih => exact .ask (ih _ h)

/-- The same for a dialogue that may end early and does not. -/
theorem run_bind {x : ExceptT ε Dialogue α} {f : α → ExceptT ε Dialogue β} {γ : Type}
    {k : Except ε β → Dialogue γ} {a : α} {d' : Dialogue γ} (hx : (w.answer x.run).1 = .ok a)
    (h : Comes ((f a).run >>= k) (w.answer x.run).2 d' v) :
    Comes ((x >>= f).run >>= k) w d' v := by
  rw [ExceptT.run_bind, bind_assoc]
  refine .bind ?_
  rw [hx]
  exact h

/-- **The rest of a dialogue has its result.** -/
theorem answer_eq {d d' : Dialogue α} (h : Comes d w d' v) : w.answer d = v.answer d' := by
  induction h with
  | refl => rfl
  | ask _ ih => exact ih

end Comes

/-! ### What a dialogue writes -/

/-- Whether a dialogue in a world writes a text on its way. -/
def prompts (text : String) : Dialogue α → World → Bool
  | done _, _ => false
  | ask r next, w => r.writes text || (next (meet r w).1).prompts text (meet r w).2

/-- Part by part. -/
theorem prompts_bind (text : String) (d : Dialogue α) (k : α → Dialogue β) (w : World) :
    (d >>= k).prompts text w =
      (d.prompts text w || (k (w.answer d).1).prompts text (w.answer d).2) := by
  induction d generalizing w with
  | done a => rfl
  | ask r next ih =>
    have hnext := ih (meet r w).1 (meet r w).2
    change (r.writes text || (next (meet r w).1 >>= k).prompts text (meet r w).2) = _
    rw [hnext, ← Bool.or_assoc]
    rfl

end Dialogue

/-! ### Questions -/

/-- Nothing but questions since a world; these lines are left. -/
structure Since (w : World) (lines : List (List UInt8)) (v : World) : Prop where
  lines_eq : inputLines v.input = lines
  folder_eq : v.folder = w.folder
  sink_eq : v.sink = w.sink

theorem Since.trans {w v u : World} {lines more : List (List UInt8)} (h : Since w lines v)
    (hmore : Since v more u) : Since w more u :=
  ⟨hmore.lines_eq, hmore.folder_eq.trans h.folder_eq, hmore.sink_eq.trans h.sink_eq⟩

/-- **A question takes the first line** that is left, whether or not it can be read. -/
theorem answer_ask_line {w : World} {line : List UInt8} {rest : List (List UInt8)}
    (h : inputLines w.input = line :: rest) (question : String) :
    (w.answer (ask question).run).1 = (answerOf line).map some ∧
      Since w rest (w.answer (ask question).run).2 := by
  have hne : w.input ≠ [] := by
    intro hnil
    rw [hnil, inputLines_nil] at h
    cases h
  rw [inputLines_of_ne_nil hne] at h
  obtain ⟨rfl, hrest⟩ := List.cons.inj h
  rw [answer_ask question hne]
  refine ⟨?_, hrest, rfl, rfl⟩
  unfold answerOf
  cases decode (packed (nextLine w.input).1) <;> rfl

theorem run_onFile {α : Type} (d : ExceptT FileError Dialogue α) : (onFile d).run =
    d.run >>= fun r => pure (r.mapError fun e => Failure.rejected (Fault.file e)) := by
  unfold onFile
  rw [ExceptT.run_bind]
  change (d.run >>= fun r => pure (Except.ok r)) >>= _ = _
  rw [bind_assoc]
  refine congrArg (d.run >>= ·) (funext fun r => ?_)
  cases r <;> rfl

theorem answer_onFile {α : Type} (d : ExceptT FileError Dialogue α) (w : World) :
    w.answer (onFile d).run =
      ((w.answer d.run).1.mapError (fun e => .rejected (.file e)), (w.answer d.run).2) := by
  rw [run_onFile, World.answer_bind]
  rfl

theorem ok_of_answer_onFile {α : Type} {d : ExceptT FileError Dialogue α} {w : World} {a : α}
    (h : (w.answer (onFile d).run).1 = .ok a) : (w.answer d.run).1 = .ok a := by
  rw [answer_onFile] at h
  generalize (w.answer d.run).1 = r at h
  cases r with
  | ok b => exact congrArg Except.ok (Except.ok.inj h)
  | error e => cases h

theorem prompts_onFile {α : Type} (d : ExceptT FileError Dialogue α) (text : String) (w : World) :
    (onFile d).run.prompts text w = d.run.prompts text w := by
  rw [run_onFile, prompts_bind]
  exact Bool.or_false _

theorem prompts_write (text text' : String) (w : World) :
    (write text').prompts text w = (text' == text) :=
  Bool.or_false _

theorem prompts_ask (question text : String) (w : World) :
    (ask question).run.prompts text w = (question == text) := by
  have hrest : ∀ (answer : Option ByteArray) (w : World), (ExceptT.run (match answer with
      | none => pure none
      | some line => do
        let text ← ExceptT.mk (pure (decode line))
        return some (trimmed text) : ExceptT FileError Dialogue (Option String))).prompts text w =
          false := by
    intro answer w
    cases answer with
    | none => rfl
    | some line => cases hd : decode line <;> simp [hd] <;> rfl
  exact (congrArg (question == text || ·) (hrest _ _)).trans (Bool.or_false _)

end Quadrature

import Quadrature.Proofs.Session.Course
import Quadrature.Proofs.Session.FunctionsFile
import Quadrature.Proofs.Session.Passes
import Quadrature.Session.Program

/-!
# An entry that was just saved

An attempt at a new integral saves its entry before it asks for the number of parts. The next pass
can therefore load what was entered, and since an integration asks nothing about the world, the same
number of parts leads to the same report or the same error. All of this needs the log to go to
another file: a log is written from the start of its file on, over whatever stands there.

* `comes_of_prompts`: **what has happened when the number of parts is asked for.**
* `answer_entryReport`: the same line gives the same report.
* `Menu.comes_first`, `Menu.comes_second`: **the two passes.**
* `Menu.reintegrates`: what was just saved is integrated again,
  `Menu.not_reintegrates_logged`: unless it was logged over.
-/

namespace Quadrature

open Text Journal Dialogue Attempt World

/-! ### Until the question for the number of parts -/

theorem error_ne_refinementQuestion (text : String) :
    "Error: " ++ text ++ "\n" ≠ refinementQuestion := by
  intro h
  have hsecond := congrArg (fun t : String => t.toList[1]?) h
  have hquestion : refinementQuestion.toList[1]? = some 'n' := by decide +kernel
  rw [hquestion] at hsecond
  simp at hsecond

theorem prompts_afterAttempt (r : Except Ending Unit) (w : World) :
    (Menu.afterAttempt r).prompts refinementQuestion w = false := by
  rcases r with (fault | text) | _
  · have hne := beq_eq_false_iff_ne.2 (error_ne_refinementQuestion fault.message)
    change (false || (_ == refinementQuestion || false)) = false
    rw [hne]
    rfl
  · rfl
  · rfl

section Stages

variable {s : Settings} {w : World} {β : Type}

/-- If the number of parts is asked for, no part of the attempt before has ended it. -/
theorem ok_of_prompts {x : Attempt β} {f : β → Attempt Unit}
    (hx : x.run.prompts refinementQuestion w = false)
    (h : ((x >>= f).run >>= Menu.afterAttempt).prompts refinementQuestion w = true) :
    ∃ b, (w.answer x.run).1 = .ok b ∧ ((f b).run >>= Menu.afterAttempt).prompts
      refinementQuestion (w.answer x.run).2 = true := by
  rw [ExceptT.run_bind, bind_assoc, prompts_bind, hx, Bool.false_or] at h
  cases hb : (w.answer x.run).1 with
  | ok b =>
    rw [hb] at h
    exact ⟨b, rfl, h⟩
  | error e =>
    rw [hb] at h
    cases (prompts_afterAttempt (.error e) _).symm.trans h

/-- Another question is answered with the first line that is left. -/
theorem line_of_prompts {question : String} {f : Option String → Attempt Unit} {line : List UInt8}
    {rest : List (List UInt8)} (hq : (question == refinementQuestion) = false)
    (hlines : inputLines w.input = line :: rest)
    (h : ((onFile (ask question) >>= f).run >>= Menu.afterAttempt).prompts
      refinementQuestion w = true) :
    ∃ answer v, answerOf line = .ok answer ∧ Since w rest v ∧
      ((f (some answer)).run >>= Menu.afterAttempt).prompts refinementQuestion v = true ∧
      ∀ d u, Comes ((f (some answer)).run >>= Menu.afterAttempt) v d u →
        Comes ((onFile (ask question) >>= f).run >>= Menu.afterAttempt) w d u := by
  obtain ⟨b, hb, hnext⟩ := ok_of_prompts (by rw [prompts_onFile, prompts_ask, hq]) h
  obtain ⟨hanswer, hsince⟩ := answer_ask_line hlines question
  have hcomes : ∀ d u, Comes ((f b).run >>= Menu.afterAttempt)
      (w.answer (onFile (ask question)).run).2 d u →
        Comes ((onFile (ask question) >>= f).run >>= Menu.afterAttempt) w d u :=
    fun d u hd => .run_bind hb hd
  rw [answer_onFile] at hb hnext hcomes
  rw [hanswer] at hb
  cases hline : answerOf line with
  | error e =>
    rw [hline] at hb
    cases hb
  | ok answer =>
    rw [hline] at hb
    obtain rfl : some answer = b := Except.ok.inj hb
    exact ⟨answer, _, rfl, hsince, hnext, hcomes⟩

/-- An attempt at a new integral, from its entry on. -/
def saveAndIntegrate (s : Settings) (e : Entry) : Attempt Unit := do
  onFile (Journal.append s.functionsFile e)
  integrateEntry s e

/-- **A new integral whose number of parts is asked for** has made up its entry from the lines. -/
theorem comes_of_prompts {typed start stop : List UInt8} {rest : List (List UInt8)}
    (hlines : inputLines w.input = typed :: start :: stop :: rest)
    (h : ((integrateNew s).run >>= Menu.afterAttempt).prompts refinementQuestion w = true) :
    ∃ a b c integrand v, answerOf typed = .ok a ∧ answerOf start = .ok b ∧ answerOf stop = .ok c ∧
      Integrand.accept (α := Float) a = .ok integrand ∧ Since w rest v ∧
      ((saveAndIntegrate s ⟨integrand, Interval.line b c⟩).run >>= Menu.afterAttempt).prompts
        refinementQuestion v = true ∧
      Comes ((integrateNew s).run >>= Menu.afterAttempt) w
        ((saveAndIntegrate s ⟨integrand, Interval.line b c⟩).run >>= Menu.afterAttempt) v := by
  unfold integrateNew at h ⊢
  obtain ⟨a, w₁, htyped, hsince₁, h, hcomes₁⟩ := line_of_prompts (by decide +kernel) hlines h
  dsimp only at h hcomes₁
  cases haccept : Integrand.accept (α := Float) a with
  | error r =>
    rw [haccept] at h
    cases (prompts_afterAttempt (.error (.rejected (.rejected r))) w₁).symm.trans h
  | ok integrand =>
    rw [haccept] at h hcomes₁
    obtain ⟨b, w₂, hstart, hsince₂, h, hcomes₂⟩ :=
      line_of_prompts (by decide +kernel) hsince₁.lines_eq h
    obtain ⟨c, w₃, hstop, hsince₃, h, hcomes₃⟩ :=
      line_of_prompts (by decide +kernel) hsince₂.lines_eq h
    refine ⟨a, b, c, integrand, w₃, htyped, hstart, hstop, haccept,
      (hsince₁.trans hsince₂).trans hsince₃, h, ?_⟩
    exact hcomes₁ _ _ (hcomes₂ _ _ (hcomes₃ _ _ (.refl _ _)))

end Stages

/-! ### The functions file -/

section File

variable {file : String} {path : Path} {content : Option String} {w v : World}
  {rest : List (List UInt8)}

theorem Filed.since (h : Filed file path content w) (hsince : Since w rest v) :
    Filed file path content v :=
  h.congr hsince.folder_eq hsince.sink_eq

theorem prompts_append (e : Entry) (text : String) (w : World) :
    (append file e).run.prompts text w = false := by
  unfold append
  rw [ExceptT.run_bind, prompts_bind]
  cases (w.answer (ExceptT.mk (request (.appendFile file (record e)))).run).1 with
  | ok u => rfl
  | error e => rfl

end File

/-! ### What becomes of an entry -/

/-- The report for an entry, in as many parts as are typed; none at the end of the input. -/
def entryReport (s : Settings) (e : Entry) : Attempt (Option Report) := do
  match ← onFile (ask refinementQuestion) with
  | none => return none
  | some answer =>
    let refinement ← check .rejected (Refinement.read answer)
    return some (← integrateText s e.integrand e.interval refinement)

/-- Writes a report, if there is one. -/
def writeReport : Option Report → Attempt Unit
  | none => return ()
  | some report => say (Dialogue.write ("\n" ++ report.text ++ "\n"))

theorem integrateEntry_eq (s : Settings) (e : Entry) :
    integrateEntry s e = entryReport s e >>= writeReport := by
  unfold integrateEntry entryReport
  rw [bind_assoc]
  refine congrArg (onFile (ask refinementQuestion) >>= ·) (funext fun answer => ?_)
  cases answer with
  | none => rfl
  | some answer => simp [writeReport]

section Entry

variable {s : Settings} {e : Entry} {v v' : World} {parts parts' : List UInt8}
  {rest rest' : List (List UInt8)}

/-- **The same line gives the same report** or the same end, in whatever world. -/
theorem answer_entryReport (h : inputLines v.input = parts :: rest)
    (h' : inputLines v'.input = parts' :: rest') (hparts : answerOf parts' = answerOf parts) :
    (v'.answer (entryReport s e).run).1 = (v.answer (entryReport s e).run).1 := by
  have hask := (answer_ask_line h refinementQuestion).1
  have hask' := (answer_ask_line h' refinementQuestion).1
  rw [hparts, ← hask] at hask'
  unfold entryReport
  rw [ExceptT.run_bind, World.answer_bind, World.answer_bind, answer_onFile, answer_onFile]
  dsimp only
  rw [hask', hask]
  cases answerOf parts with
  | error err => rfl
  | ok answer =>
    -- what follows the question asks nothing about the world
    refine Blind.answer_eq ?_ _ _
    refine .run_bind (blind_check _ _) fun refinement => ?_
    exact .run_bind (blind_integrateText _ _ _ _) fun report => .done _

/-- The pass goes on after the same report in the same way. -/
theorem answer_afterAttempt
    (h : (v'.answer (entryReport s e).run).1 = (v.answer (entryReport s e).run).1) :
    (v'.answer ((integrateEntry s e).run >>= Menu.afterAttempt)).1 =
      (v.answer ((integrateEntry s e).run >>= Menu.afterAttempt)).1 := by
  rw [integrateEntry_eq, ExceptT.run_bind, bind_assoc,
    World.answer_bind (entryReport s e).run _ v', World.answer_bind (entryReport s e).run _ v, h]
  rcases (v.answer (entryReport s e).run).1 with (fault | text) | _ | report <;> rfl

end Entry

/-! ### Two passes -/

namespace Menu

variable {s : Settings} {w : World} {line : List UInt8} {rest : List (List UInt8)} {c : Choice}
  {attempt : Attempt Unit}

/-- **A pass comes to the task** that the next line chooses. -/
theorem comes_task (hlines : inputLines w.input = line :: rest)
    (hchoice : (answerOf line).map Choice.ofAnswer = .ok c) (hattempt : c.attempt? s = some attempt) :
    Since w rest (afterChoice w) ∧
      (pass s).Comes w (attempt.run >>= afterAttempt) (afterChoice w) ∧
      (pass s).prompts refinementQuestion w =
        (attempt.run >>= afterAttempt).prompts refinementQuestion (afterChoice w) := by
  obtain ⟨hanswer, hsince⟩ := answer_ask_line hlines question
  have hafter : Since w rest (afterChoice w) := ⟨hsince.lines_eq, hsince.folder_eq, hsince.sink_eq⟩
  cases hline : answerOf line with
  | error e =>
    rw [hline] at hchoice
    cases hchoice
  | ok answer =>
    rw [hline] at hchoice hanswer
    obtain rfl : Choice.ofAnswer answer = c := Except.ok.inj hchoice
    refine ⟨hafter, ?_, ?_⟩
    · unfold pass
      refine .bind ?_
      rw [hanswer]
      refine .bind ?_
      dsimp only [Option.map_some, Option.getD_some]
      rw [hattempt]
      exact .refl _ _
    · unfold pass
      have hquestion : (question == refinementQuestion) = false := by decide +kernel
      have hfeed : ("\n" == refinementQuestion) = false := by decide +kernel
      rw [prompts_bind, prompts_ask, hquestion, Bool.false_or, hanswer]
      dsimp only [Except.map]
      rw [prompts_bind, prompts_write, hfeed, Bool.false_or]
      dsimp only [Option.map_some, Option.getD_some]
      rw [hattempt]
      rfl

theorem chosen_eq (hlines : inputLines w.input = line :: rest)
    (hchoice : (answerOf line).map Choice.ofAnswer = .ok c) : chosen w = .ok c := by
  unfold chosen
  rw [hlines]
  exact hchoice

/-- A task that does not stop the program is followed by another pass. -/
theorem again_of_chosen (hchosen : chosen w = .ok c) (hattempt : c.attempt? s = some attempt)
    (hstop : ∀ text, (w.answer (pass s)).1 ≠ .stopped text) : (w.answer (pass s)).1 = .again := by
  have hfollows := follows s w
  generalize (w.answer (pass s)).1 = next at hfollows hstop
  cases hfollows with
  | unreadable h => cases h.symm.trans hchosen
  | left h =>
    obtain rfl := Except.ok.inj (h.symm.trans hchosen)
    cases hattempt
  | again => rfl
  | stopped => exact absurd rfl (hstop _)

end Menu

/-- The entry that three lines of the input make up. -/
def Entry.MadeUp (typed start stop : List UInt8) (e : Entry) : Prop := ∃ a b c,
  answerOf typed = .ok a ∧ answerOf start = .ok b ∧ answerOf stop = .ok c ∧
    Integrand.accept (α := Float) a = .ok e.integrand ∧ e.interval = Interval.line b c

/-- **What lines make up can be saved.** -/
theorem Entry.MadeUp.savable {typed start stop input : List UInt8} {e : Entry}
    (h : e.MadeUp typed start stop) (htyped : typed ∈ inputLines input)
    (hstart : start ∈ inputLines input) (hstop : stop ∈ inputLines input) : e.Savable := by
  obtain ⟨a, b, c, ha, hb, hc, haccept, hinterval⟩ := h
  refine ⟨Integrand.line_of_accept haccept (notMem_of_answerOf htyped ha), ?_⟩
  rw [hinterval]
  exact Interval.line_line (notMem_of_answerOf hstart hb) (notMem_of_answerOf hstop hc)

namespace Menu

/-- A pass integrates an entry, and this becomes of it. -/
def Integrates (s : Settings) (w : World) (e : Entry) (r : Except Ending (Option Report)) : Prop :=
  ∃ v, (pass s).Comes w ((integrateEntry s e).run >>= afterAttempt) v ∧
    (v.answer (entryReport s e).run).1 = r

section Passes

variable {s : Settings} {w : World} {content : Option String} {path : Path} {e : Entry}
  {choice typed start stop parts : List UInt8} {rest : List (List UInt8)}

/-- **The first pass** saves the entry that its lines make up before it asks for the number of
parts. -/
theorem comes_first (hlines : inputLines w.input = choice :: typed :: start :: stop :: rest)
    (hchoice : (answerOf choice).map Choice.ofAnswer = .ok .integrateNew)
    (hread : w.folder.read s.functionsFile =
      content.elim (.error .notFound) fun text => .ok text.toUTF8)
    (hapart : LogsApart s.functionsFile w)
    (hprompt : (pass s).prompts refinementQuestion w = true) :
    ∃ e v path, e.MadeUp typed start stop ∧
      (pass s).Comes w ((integrateEntry s e).run >>= afterAttempt) v ∧
      Known (fun input => inputLines input = rest) s.functionsFile path
        (some (content.getD "" ++ record e)) v := by
  obtain ⟨hsince, hcomes, hprompts⟩ := comes_task hlines hchoice (s := s) rfl
  rw [hprompts] at hprompt
  obtain ⟨a, b, c, integrand, v, ha, hb, hc, haccept, hsince', hsave, hcomes'⟩ :=
    comes_of_prompts hsince.lines_eq hprompt
  have hall := hsince.trans hsince'
  -- the entry was saved, or the number of parts would not be asked for
  obtain ⟨u, happend, -⟩ := ok_of_prompts (by rw [prompts_onFile, prompts_append]) hsave
  obtain ⟨path, hlocate⟩ := exists_path_of_append (ok_of_answer_onFile happend)
  rw [hall.folder_eq] at hlocate
  have hknown : Known (fun input => inputLines input = rest) s.functionsFile path content v :=
    ⟨hall.lines_eq, (filed_of_read hlocate hread hapart).since hall⟩
  obtain ⟨-, hsaved⟩ := Known.leads_append ⟨integrand, Interval.line b c⟩ v hknown
  have hafter : (v.answer (onFile (append s.functionsFile ⟨integrand, Interval.line b c⟩)).run).2 =
      (v.answer (append s.functionsFile ⟨integrand, Interval.line b c⟩).run).2 := by
    rw [answer_onFile]
  refine ⟨⟨integrand, Interval.line b c⟩, _, path, ⟨a, b, c, ha, hb, hc, haccept, rfl⟩, ?_, hsaved⟩
  rw [← hafter]
  exact hcomes.trans (hcomes'.trans (.run_bind happend (.refl _ _)))

theorem comes_write (text : String) (f : Unit → Attempt Unit) (w : World) :
    Comes ((say (write text) >>= f).run >>= afterAttempt) w ((f ()).run >>= afterAttempt)
      { w with output := w.output ++ text } :=
  .run_bind rfl (.refl _ _)

/-- **The second pass** integrates the newest entry. -/
theorem comes_second {text : String} (hlines : inputLines w.input = choice :: rest)
    (hchoice : (answerOf choice).map Choice.ofAnswer = .ok .integrateLast)
    (hfiled : Filed s.functionsFile path (some text) w) (hlast : last? text = some e) :
    ∃ v, (pass s).Comes w ((integrateEntry s e).run >>= afterAttempt) v ∧
      inputLines v.input = rest := by
  obtain ⟨hsince, hcomes, -⟩ := comes_task hlines hchoice (s := s) rfl
  have hknown : Known (fun input => inputLines input = rest) s.functionsFile path (some text)
      (afterChoice w) := ⟨hsince.lines_eq, hfiled.since hsince⟩
  obtain ⟨hnewest, hafter⟩ := leads_onFile Known.leads_newest _ hknown
  rw [Option.elim_some, hlast] at hnewest
  unfold integrateLast at hcomes
  -- the entry is written in two lines before it is integrated
  exact ⟨_, hcomes.trans (.run_bind hnewest ((comes_write _ _ _).trans (comes_write _ _ _))),
    hafter.input⟩

/-- What follows the question leaves the functions file as it is. -/
theorem known_after {file text : String} {v : World}
    (h : Known (fun input => inputLines input = parts :: rest) file path (some text) v) :
    Known (fun input => inputLines input = rest) file path (some text)
      (v.answer ((integrateEntry s e).run >>= afterAttempt)).2 := by
  have hask : (ask refinementQuestion).run.Leads
      (Known (fun input => inputLines input = parts :: rest) file path (some text))
      fun r w => r = (answerOf parts).map some ∧
        Known (fun input => inputLines input = rest) file path (some text) w := by
    intro w hw
    obtain ⟨hanswer, hsince⟩ := answer_ask_line hw.input refinementQuestion
    exact ⟨hanswer, hsince.lines_eq, hw.filed.since hsince⟩
  have hentry := Known.leads_integrateEntry (s := s) hask e
  exact (hentry.bind fun r => Known.leads_quiet (quiet_afterAttempt r)) v h

end Passes

/-- **What was just saved is integrated again.** If a new integral comes to the question for its
number of parts, then the next pass, when it chooses the entry saved last and gives the same number
of parts, loads the entry that was made up from the lines of the first pass, and integrates it with
the same result, be it a report or an error. The log must not be written to the functions file. -/
theorem reintegrates {s : Settings} {w : World} {content : Option String}
    {choice typed start stop parts choice' parts' : List UInt8} {rest : List (List UInt8)}
    (hlines : inputLines w.input =
      choice :: typed :: start :: stop :: parts :: choice' :: parts' :: rest)
    (hchoice : (answerOf choice).map Choice.ofAnswer = .ok .integrateNew)
    (hchoice' : (answerOf choice').map Choice.ofAnswer = .ok .integrateLast)
    (hparts : answerOf parts' = answerOf parts)
    (hread : w.folder.read s.functionsFile =
      content.elim (.error .notFound) fun text => .ok text.toUTF8)
    (hwhole : ∀ text ∈ content, Whole text)
    (hapart : LogsApart s.functionsFile w)
    (hprompt : (pass s).prompts refinementQuestion w = true)
    (hstop : ∀ text, (w.answer (pass s)).1 ≠ .stopped text) :
    let w' := (w.answer (pass s)).2
    ∃ e r, e.MadeUp typed start stop ∧ Integrates s w e r ∧ (w.answer (pass s)).1 = .again ∧
      (w'.answer (newest s.functionsFile).run).1 = .ok (some e) ∧
      Integrates s w' e r ∧ (w'.answer (pass s)).1 = .again := by
  intro w'
  obtain ⟨e, v, path, hmade, hcomes, hknown⟩ := comes_first hlines hchoice hread hapart hprompt
  have hfirst := hcomes.answer_eq
  have hafter : Known (fun input => inputLines input = choice' :: parts' :: rest) s.functionsFile
      path (some (content.getD "" ++ record e)) w' := by
    rw [show w' = (v.answer ((integrateEntry s e).run >>= afterAttempt)).2 from
      congrArg Prod.snd hfirst]
    exact known_after hknown
  have hmem : ∀ line ∈ [typed, start, stop], line ∈ inputLines w.input := by
    rw [hlines]
    simp
  have hsavable : e.Savable :=
    hmade.savable (hmem typed (by simp)) (hmem start (by simp)) (hmem stop (by simp))
  have hlast : last? (content.getD "" ++ record e) = some e :=
    (whole_getD hwhole).last?_append_record hsavable
  obtain ⟨v', hcomes', hlines'⟩ := comes_second hafter.input hchoice' hafter.filed hlast
  have hsame := answer_entryReport (s := s) (e := e) hknown.input hlines' hparts
  have hagain : (w.answer (pass s)).1 = .again :=
    again_of_chosen (chosen_eq hlines hchoice) rfl hstop
  refine ⟨e, _, hmade, ⟨v, hcomes, rfl⟩, hagain, ?_, ⟨v', hcomes', hsame⟩, ?_⟩
  · exact (Known.leads_newest _ hafter).1.trans (by rw [Option.elim_some, hlast])
  · rw [hcomes'.answer_eq, answer_afterAttempt hsame, ← hfirst, hagain]

/-- One more entry after one that was there, integrated twice in two parts. -/
theorem reintegrates_behind_other :
    let s : Settings := { Settings.default with fineness := ⟨1000, 0.5, .left⟩ }
    let w := World.fresh (bytes "1\n x \n0\n1\n2\n2\n2\n".toList)
      [(["functions.txt"], "y\n[0 ; 2]\n".toUTF8)]
    let w' := (w.answer (pass s)).2
    ∃ e r, Integrates s w e r ∧ (w'.answer (newest s.functionsFile).run).1 = .ok (some e) ∧
      e = ⟨"x", "[0 ; 1]"⟩ ∧ Integrates s w' e r := by
  intro s w w'
  have hlines : inputLines w.input =
      ["1\n", " x \n", "0\n", "1\n", "2\n", "2\n", "2\n"].map fun line => bytes line.toList := by
    decide +kernel
  have hagain : (w.answer (pass s)).1 = .again := by decide +kernel
  have hwhole : Whole "y\n[0 ; 2]\n" :=
    ⟨.feed ['y', '\n', '[', '0', ' ', ';', ' ', '2', ']'], by decide +kernel⟩
  have hread : w.folder.read s.functionsFile = (some "y\n[0 ; 2]\n").elim (.error .notFound)
      fun text => .ok text.toUTF8 := by decide +kernel
  have hapart : LogsApart s.functionsFile w := by
    intro level name place path hsink
    cases hsink
  obtain ⟨e, r, -, hfirst, -, hnewest, hsecond, -⟩ := reintegrates hlines (by decide +kernel)
    (by decide +kernel) rfl hread (fun text htext => Option.some.inj htext ▸ hwhole) hapart
    (by decide +kernel) (fun text => by rw [hagain]; simp)
  have hloaded : (w'.answer (newest s.functionsFile).run).1 = .ok (some ⟨"x", "[0 ; 1]"⟩) := by
    decide +kernel
  have he := Option.some.inj (Except.ok.inj (hnewest.symm.trans hloaded))
  exact ⟨e, r, hfirst, hnewest, he, hsecond⟩

/-- The log may not be written to the functions file: the line about a refused number of parts
stands over the entry, which the next pass cannot load. -/
theorem not_reintegrates_logged :
    let opened := (World.fresh (bytes "1\nx\n0\n1\n0\n2\n0\n".toList) []).answer
      (Program.opening (CommandLine.read ["-l", "error", "--log-file", "functions.txt"]))
    let s : Settings :=
      { Settings.default with logging := ⟨some .error, true, some "functions.txt"⟩ }
    let w := opened.2
    let w' := (w.answer (pass s)).2
    opened.1 = .ok s ∧ w.folder.read s.functionsFile = .ok "".toUTF8 ∧
      inputLines w.input =
        ["1\n", "x\n", "0\n", "1\n", "0\n", "2\n", "0\n"].map (fun line => bytes line.toList) ∧
      (pass s).prompts refinementQuestion w = true ∧ (w.answer (pass s)).1 = .again ∧
      (w'.answer (newest s.functionsFile).run).1 = .ok none ∧
      (pass s).prompts refinementQuestion w' = false := by
  decide +kernel

end Menu

end Quadrature

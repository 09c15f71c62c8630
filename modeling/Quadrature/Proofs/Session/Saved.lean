import Mathlib.Data.List.Induction
import Quadrature.Proofs.Session.FunctionsFile

/-!
# What a session saves

Which entries a session saves can be told from the lines of its input, without running it: every
choice to integrate saves one, whose integrand is accepted and whose two ends are answered. Whatever
happens to the attempt afterwards, the functions file has one more pair of lines.

* `attempted`, `turn`, `saved`: the entries for the lines of an input.
* `leads_pass`: **one pass**.
* `Stands.run`: **a run**.
* `Menu.run_saved`: what a session leaves in the functions file.
-/

namespace Quadrature

open Text Journal Dialogue Attempt

/-! ### The entries for an input -/

/-- What an attempt at a new integral saves, and the lines that it leaves. -/
def attempted : List String → Option Entry × List String
  | [] => (none, [])
  | typed :: rest =>
    match Integrand.accept (α := Float) typed with
    | .error _ => (none, rest)
    | .ok integrand =>
      match rest with
      -- one more line is the number of parts
      | start :: stop :: rest => (some ⟨integrand, Interval.line start stop⟩, rest.tail)
      | _ => (none, [])

/-- What a pass saves and the lines that it leaves, unless it is the last one. The newest entry, if
there is one, takes a line for its number of parts. -/
def turn (hasEntry : Bool) : List String → Option (Option Entry × List String)
  | [] => none
  | choice :: rest =>
    match Menu.Choice.ofAnswer choice with
    | .integrateNew => some (attempted rest)
    | .integrateLast => some (none, if hasEntry then rest.tail else rest)
    | .listSaved => some (none, rest)
    | .exit => none

theorem length_attempted (answers : List String) :
    (attempted answers).2.length ≤ answers.length := by
  unfold attempted
  split
  · exact Nat.le_refl _
  · split
    · exact Nat.le_succ _
    · split
      · simp only [List.length_tail, List.length_cons]
        omega
      · exact Nat.zero_le _

theorem length_turn {hasEntry : Bool} {answers rest : List String} {e : Option Entry}
    (h : turn hasEntry answers = some (e, rest)) : rest.length < answers.length := by
  unfold turn at h
  split at h
  · cases h
  rename_i choice more
  split at h
  · have hle := length_attempted more
    rw [Option.some.inj h] at hle
    exact Nat.lt_succ_of_le hle
  · cases h
    split
    · simp only [List.length_tail, List.length_cons]
      omega
    · exact Nat.lt_succ_self _
  · cases h
    exact Nat.lt_succ_self _
  · cases h

/-- **The entries that a session saves** for the lines of its input. -/
def saved (hasEntry : Bool) (answers : List String) : List Entry :=
  match _h : turn hasEntry answers with
  | none => []
  | some (e, rest) => e.toList ++ saved (hasEntry || e.isSome) rest
termination_by answers.length
decreasing_by exact length_turn ‹_›

theorem saved_of_none {hasEntry : Bool} {answers : List String}
    (h : turn hasEntry answers = none) : saved hasEntry answers = [] := by
  rw [saved]
  split
  · rfl
  · rename_i heq
    cases h.symm.trans heq

theorem saved_of_some {hasEntry : Bool} {answers rest : List String} {e : Option Entry}
    (h : turn hasEntry answers = some (e, rest)) :
    saved hasEntry answers = e.toList ++ saved (hasEntry || e.isSome) rest := by
  rw [saved]
  split
  · rename_i heq
    cases h.symm.trans heq
  · rename_i heq
    cases h.symm.trans heq
    rfl

/-- Both lines of what is saved are lines. -/
theorem savable_of_attempted {answers : List String} (h : ∀ a ∈ answers, '\n' ∉ a.toList)
    {e : Entry} (he : (attempted answers).1 = some e) : e.Savable := by
  unfold attempted at he
  split at he
  · cases he
  rename_i typed rest
  split at he
  · cases he
  rename_i integrand haccept
  split at he
  · rename_i start stop more
    cases he
    have htyped := h typed (by simp)
    exact ⟨Integrand.line_of_accept haccept htyped,
      Interval.line_line (h start (by simp)) (h stop (by simp))⟩
  · cases he

theorem savable_of_turn {hasEntry : Bool} {answers rest : List String}
    (h : ∀ a ∈ answers, '\n' ∉ a.toList) {e : Entry}
    (he : turn hasEntry answers = some (some e, rest)) : e.Savable := by
  unfold turn at he
  split at he
  · cases he
  rename_i choice more
  split at he
  · have hmore : ∀ a ∈ more, '\n' ∉ a.toList := fun a ha => h a (List.mem_cons_of_mem _ ha)
    have hattempted : (attempted more).1 = some e := congrArg Prod.fst (Option.some.inj he)
    exact savable_of_attempted hmore hattempted
  all_goals cases he

/-! ### One pass -/

/-- The text of a file with some more entries; a file that is missing stays missing without any. -/
def extended (content : Option String) (es : List Entry) : Option String :=
  if es.isEmpty then content else some (content.getD "" ++ String.join (es.map record))

variable {s : Settings} {path : Path} {content : Option String} {rest : List String} {w : World}

theorem extended_singleton (content : Option String) (e : Entry) :
    extended content [e] = some (content.getD "" ++ record e) := by
  simp [extended, String.join]

theorem leads_integrateEntry (e : Entry) : (integrateEntry s e).run.Leads
    (Stands s.functionsFile path content rest)
    fun _ => Stands s.functionsFile path content rest.tail :=
  Known.leads_integrateEntry (Stands.leads_ask _) e

/-- **An attempt at a new integral** saves the entry that its answers make up, whatever becomes of
the integral. -/
theorem leads_integrateNew : (integrateNew s).run.Leads
    (Stands s.functionsFile path content rest)
    fun _ => Stands s.functionsFile path (extended content (attempted rest).1.toList)
      (attempted rest).2 := by
  unfold integrateNew
  refine Leads.run_bind_ok (leads_onFile (Stands.leads_ask _)) ?_
  cases rest with
  | nil => exact Leads.pure fun w h => h
  | cons typed rest =>
    dsimp only [List.head?_cons, List.tail_cons]
    cases haccept : Integrand.accept (α := Float) typed with
    | error r =>
      have hattempted : attempted (typed :: rest) = (none, rest) := by
        rw [attempted, haccept]
      rw [hattempted]
      exact Leads.run_bind_error (fun w h => ⟨rfl, h⟩) fun w h => h
    | ok integrand =>
      refine Leads.run_bind_ok leads_check ?_
      refine Leads.run_bind_ok (leads_onFile (Stands.leads_ask _)) ?_
      rcases rest with _ | ⟨start, rest⟩
      · have hattempted : attempted [typed] = (none, []) := by
          rw [attempted, haccept]
        rw [hattempted]
        exact Leads.pure fun w h => h
      dsimp only [List.head?_cons, List.tail_cons]
      refine Leads.run_bind_ok (leads_onFile (Stands.leads_ask _)) ?_
      rcases rest with _ | ⟨stop, rest⟩
      · have hattempted : attempted [typed, start] = (none, []) := by
          rw [attempted, haccept]
        rw [hattempted]
        exact Leads.pure fun w h => h
      have hattempted : attempted (typed :: start :: stop :: rest) =
          (some ⟨integrand, Interval.line start stop⟩, rest.tail) := by
        rw [attempted, haccept]
      rw [hattempted, Option.toList_some, extended_singleton]
      dsimp only [List.head?_cons, List.tail_cons]
      refine Leads.run_bind_ok (leads_onFile (Known.leads_append _)) ?_
      exact leads_integrateEntry _

/-- The newest entry once more; the functions file stays as it is. -/
theorem leads_integrateLast : (integrateLast s).run.Leads
    (Stands s.functionsFile path content rest)
    fun _ => Stands s.functionsFile path content
      (if (content.bind last?).isSome then rest.tail else rest) := by
  unfold integrateLast
  cases content with
  | none => exact Leads.run_bind_error (leads_onFile Known.leads_newest) fun w h => h
  | some text =>
    refine Leads.run_bind_ok (leads_onFile Known.leads_newest) ?_
    rw [Option.bind_some]
    cases last? text with
    | none => exact Known.leads_quiet (quiet_say (.request (.log _)))
    | some e =>
      refine Leads.run_bind_ok (leads_say (Known.leads_write _)) ?_
      exact Leads.run_bind_ok (leads_say (Known.leads_write _)) (leads_integrateEntry e)

theorem quiet_listSaved (s : Settings) : Quiet (listSaved s).run := by
  unfold listSaved
  refine .run_bind (quiet_onFile ?_) fun text => quiet_say (.request (.write _))
  exact .run_bind (.request (.readFile _)) fun _ => .done _

theorem leads_afterAttempt (r : Except Ending Unit) : (Menu.afterAttempt r).Leads
    (Stands s.functionsFile path content rest) fun next w =>
      (next = .again ∨ ∃ text, next = .stopped text) ∧
        Stands s.functionsFile path content rest w := by
  intro w h
  rcases r with (fault | text) | _
  · exact ⟨.inl rfl, (h.logged _).meet (.write _)⟩
  · exact ⟨.inr ⟨text, rfl⟩, h⟩
  · exact ⟨.inl rfl, h⟩

/-- **One pass.** -/
theorem leads_pass : (Menu.pass s).Leads (Stands s.functionsFile path content rest)
    fun next w =>
      match turn (content.bind last?).isSome rest with
      | none => next = .left ∧ Stands s.functionsFile path content rest.tail w
      | some (e, more) => (next = .again ∨ ∃ text, next = .stopped text) ∧
        Stands s.functionsFile path (extended content e.toList) more w := by
  unfold Menu.pass
  refine Leads.bind_eq (Stands.leads_ask _) ?_
  refine Leads.bind_eq (Known.leads_write _) ?_
  cases rest with
  | nil => exact fun w h => ⟨rfl, h.logged _⟩
  | cons choice rest =>
    unfold turn
    dsimp only [List.head?_cons, List.tail_cons, Option.map_some, Option.getD_some]
    cases Menu.Choice.ofAnswer choice with
    | integrateNew => exact leads_integrateNew.bind leads_afterAttempt
    | integrateLast => exact leads_integrateLast.bind leads_afterAttempt
    | listSaved => exact (Known.leads_quiet (quiet_listSaved s)).bind leads_afterAttempt
    | exit => exact fun w h => ⟨rfl, h.logged _⟩

/-! ### A run -/

theorem extended_extended (content : Option String) (es fs : List Entry) :
    extended (extended content es) fs = extended content (es ++ fs) := by
  cases es with
  | nil => rfl
  | cons e es =>
    cases fs with
    | nil => rw [List.append_nil]; rfl
    | cons f fs =>
      simp [extended, String.join_append, String.append_assoc]

theorem whole_extended {e : Option Entry} (h : ∀ text ∈ content, Whole text)
    (he : ∀ e' ∈ e, e'.Savable) : ∀ text ∈ extended content e.toList, Whole text := by
  cases e with
  | none => exact h
  | some e =>
    rw [Option.toList_some, extended_singleton]
    intro text htext
    cases htext
    exact (whole_getD h).append_record (he e rfl)

/-- There is a newest entry if there was one or one is added. -/
theorem isSome_last?_extended {e : Option Entry} (h : ∀ text ∈ content, Whole text)
    (he : ∀ e' ∈ e, e'.Savable) : ((extended content e.toList).bind last?).isSome =
      ((content.bind last?).isSome || e.isSome) := by
  cases e with
  | none => exact (Bool.or_false _).symm
  | some e =>
    rw [Option.toList_some, extended_singleton, Option.bind_some,
      (whole_getD h).last?_append_record (he e rfl), Option.isSome_some, Bool.or_true]

/-- **A run**: pass after pass, the entries that the lines of the input make up are saved. -/
theorem Stands.run {content : Option String} {rest : List String} {w : World}
    (h : Stands s.functionsFile path content rest w) (hwhole : ∀ text ∈ content, Whole text)
    (hstop : ∀ text, (Menu.run s w).1 ≠ .stopped text) :
    (Menu.run s w).1 = .left ∧
      (∀ e ∈ saved (content.bind last?).isSome rest, e.Savable) ∧
      ∃ more, Stands s.functionsFile path
        (extended content (saved (content.bind last?).isSome rest)) more (Menu.run s w).2 := by
  have hpass := leads_pass w h
  rw [Menu.run_eq] at hstop ⊢
  cases hturn : turn (content.bind last?).isSome rest with
  | none =>
    rw [hturn] at hpass
    obtain ⟨hleft, hstands⟩ := hpass
    rw [saved_of_none hturn, hleft, if_neg (by decide)]
    exact ⟨hleft, by simp, _, hstands⟩
  | some r =>
    obtain ⟨e, more⟩ := r
    rw [hturn] at hpass
    obtain ⟨hagain | ⟨text, hstopped⟩, hstands⟩ := hpass
    · rw [hagain, if_pos rfl] at hstop ⊢
      have hsavable : ∀ e' ∈ e, e'.Savable := by
        rintro e' rfl
        exact savable_of_turn (fun a ha => h.notMem ha) hturn
      have hlt := length_turn hturn
      obtain ⟨hleft, hmore, hafter⟩ := hstands.run (whole_extended hwhole hsavable) hstop
      rw [isSome_last?_extended hwhole hsavable] at hmore hafter
      rw [extended_extended, ← saved_of_some hturn] at hafter
      refine ⟨hleft, ?_, hafter⟩
      intro e' he'
      rw [saved_of_some hturn, List.mem_append, Option.mem_toList] at he'
      exact he'.elim (hsavable e') (hmore e')
    · rw [hstopped, if_neg (by simp)] at hstop
      exact absurd hstopped (hstop text)
termination_by rest.length

/-- **The entries of a file** with some more of them. -/
theorem entries_extended (h : ∀ text ∈ content, Whole text) {es : List Entry}
    (hes : ∀ e ∈ es, e.Savable) : Whole ((extended content es).getD "") ∧
      entries ((extended content es).getD "") = entries (content.getD "") ++ es ∧
      last? ((extended content es).getD "") = es.getLast?.or (last? (content.getD "")) := by
  induction es using List.reverseRecOn with
  | nil => exact ⟨whole_getD h, (List.append_nil _).symm, rfl⟩
  | append_singleton es e ih =>
    obtain ⟨hwhole, hentries, -⟩ := ih fun e he => hes e (List.mem_append_left _ he)
    have he := hes e (List.mem_append_right _ List.mem_cons_self)
    rw [← extended_extended, extended_singleton, Option.getD_some]
    refine ⟨hwhole.append_record he, ?_, ?_⟩
    · rw [hwhole.entries_append_record he, hentries, List.append_assoc]
    · rw [hwhole.last?_append_record he, List.getLast?_concat]
      rfl

/-- **What a session leaves in the functions file.** A session that is not stopped saves the entries
that the lines of its input make up, behind what the file held before, and nothing else. -/
theorem Menu.run_saved {content : Option String} {input : String} {w : World}
    (hinput : World.packed w.input = input.toUTF8)
    (hlocated : w.folder.locate s.functionsFile true = .ok path)
    (hcontent : w.folder.get? path = content.map String.toUTF8)
    (hapart : ∀ level name place, w.sink = some ⟨level, some (name, place)⟩ →
      w.folder.locate name true ≠ .ok path)
    (hwhole : ∀ text ∈ content, Whole text)
    (hstop : ∀ text, (run s w).1 ≠ .stopped text) :
    let es := saved (content.bind last?).isSome (answers input.toList)
    let after := extended content es
    (run s w).1 = .left ∧
      (run s w).2.folder.get? path = after.map String.toUTF8 ∧
      (∀ text ∈ after, Whole text) ∧
      ((run s w).2.answer (list s.functionsFile).run).1 = after.elim (.error .notFound)
        (fun _ => .ok (entries (content.getD "") ++ es)) ∧
      ((run s w).2.answer (newest s.functionsFile).run).1 = after.elim (.error .notFound)
        (fun _ => .ok (es.getLast?.or (last? (content.getD "")))) := by
  have h : Stands s.functionsFile path content (answers input.toList) w :=
    ⟨⟨input.toList, eq_bytes_of_packed hinput, rfl⟩, hlocated, hcontent, hapart⟩
  obtain ⟨hleft, hsavable, more, hstands⟩ := h.run hwhole hstop
  obtain ⟨hafter, hentries, hlast⟩ := entries_extended hwhole hsavable
  have hlist := (Known.leads_list _ hstands).1
  have hnewest := (Known.leads_newest _ hstands).1
  dsimp only
  generalize saved (content.bind last?).isSome (answers input.toList) = es at *
  refine ⟨hleft, hstands.filed.content_eq, ?_, ?_, ?_⟩
  · intro text htext
    rw [Option.mem_def.1 htext] at hafter
    exact hafter
  · rw [hlist, ← hentries]
    cases extended content es <;> rfl
  · rw [hnewest, ← hlast]
    cases extended content es <;> rfl

/-- One more entry after one that was there; the session ends before it is integrated. -/
theorem Menu.run_saved_second :
    let w := World.fresh (bytes "1\n x \n0\n1\n".toList)
      [(["functions.txt"], "y\n[0 ; 2]\n".toUTF8)]
    (run .default w).2.folder.get? ["functions.txt"] =
        some "y\n[0 ; 2]\nx\n[0 ; 1]\n".toUTF8 ∧
      ((run .default w).2.answer (newest Settings.default.functionsFile).run).1 =
        .ok (some ⟨"x", "[0 ; 1]"⟩) := by
  intro w
  have hleft : (run .default w).1 = .left := by
    rw [run_eq, if_pos (by decide +kernel), run_eq, if_neg (by decide +kernel)]
    decide +kernel
  have hwhole : Whole "y\n[0 ; 2]\n" :=
    ⟨.feed ['y', '\n', '[', '0', ' ', ';', ' ', '2', ']'], by decide +kernel⟩
  have hentry : ((some "y\n[0 ; 2]\n").bind last?).isSome = true := by decide +kernel
  have hturn : turn true (answers "1\n x \n0\n1\n".toList) =
      some (some ⟨"x", "[0 ; 1]"⟩, []) := by decide +kernel
  have h := @run_saved .default ["functions.txt"] (some "y\n[0 ; 2]\n") "1\n x \n0\n1\n" w
    (by decide +kernel) (by decide +kernel) (by decide +kernel) (by simp [w, World.fresh])
    (fun text htext => Option.some.inj htext ▸ hwhole) (fun text => by rw [hleft]; simp)
  dsimp only at h
  rw [hentry, saved_of_some hturn, saved_of_none rfl] at h
  obtain ⟨-, hfile, -, -, hnewest⟩ := h
  exact ⟨hfile.trans (by decide +kernel), hnewest⟩

end Quadrature

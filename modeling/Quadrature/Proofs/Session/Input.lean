import Mathlib.Tactic.Common
import Quadrature.Proofs.Session.Quiet
import Quadrature.Proofs.Text.Lines
import Quadrature.Proofs.Text.Runs

/-!
# The input of a session

An input in UTF-8 is read line by line as the lines of its text: no character but the line feed has
the byte of a line feed in its encoding. Requests take from the input and never add to it, and
another pass follows only if a choice was read; so a session goes on for as many passes as it says.

* `nextLine_bytes`: **the first line of the bytes of a text**.
* `World.nextLine_cases`: the next line of any bytes.
* `Menu.run_eq`: **a run is one pass and, if that says so, a run in the world after it.**
-/

namespace Quadrature

open Text

/-! ### Bytes of a text -/

namespace Text

/-- A text in UTF-8. -/
def bytes (cs : List Char) : List UInt8 := cs.flatMap String.utf8EncodeChar

variable {cs ds : List Char}

theorem bytes_append : bytes (cs ++ ds) = bytes cs ++ bytes ds := List.flatMap_append

theorem bytes_cons (c : Char) : bytes (c :: cs) = String.utf8EncodeChar c ++ bytes cs := rfl

theorem bytes_ne_nil (h : cs ≠ []) : bytes cs ≠ [] := by
  cases cs with
  | nil => exact absurd rfl h
  | cons c cs =>
    intro hnil
    have hlen := String.length_utf8EncodeChar c
    rw [bytes_cons] at hnil
    rw [(List.append_eq_nil_iff.1 hnil).1] at hlen
    exact absurd hlen (Nat.ne_of_lt c.utf8Size_pos)

theorem packed_bytes (cs : List Char) : World.packed (bytes cs) = (String.ofList cs).toUTF8 := by
  refine ByteArray.ext ?_
  change (bytes cs).toArray = (bytes cs).toByteArray.data
  rw [List.data_toByteArray]

theorem eq_bytes_of_packed {input : List UInt8} {text : String}
    (h : World.packed input = text.toUTF8) : input = bytes text.toList := by
  have hpacked := packed_bytes text.toList
  rw [String.ofList_toList, ← h] at hpacked
  exact (congrArg (fun b : ByteArray => b.data.toList) hpacked).symm

theorem decode_toUTF8 (text : String) : decode text.toUTF8 = .ok text := by
  unfold decode String.fromUTF8?
  have hvalid : text.toUTF8.IsValidUTF8 := text.isValidUTF8
  rw [dif_pos hvalid]
  rfl

theorem ofNat_ne_lineFeed {n : Nat} (h : n % 256 ≠ 10) : World.lineFeed ≠ UInt8.ofNat n := by
  intro heq
  exact h (congrArg UInt8.toNat heq).symm

/-- No other character has the byte of a line feed. -/
theorem lineFeed_notMem_encode {c : Char} (h : c ≠ '\n') :
    World.lineFeed ∉ String.utf8EncodeChar c := by
  have hval : c.val.toNat ≠ 10 := by
    intro hval
    exact h (Char.ext (UInt32.toNat_inj.1 hval))
  intro hmem
  unfold String.utf8EncodeChar at hmem
  dsimp only at hmem
  -- the bytes of a longer encoding are 128 or more
  split at hmem
  · rw [List.mem_singleton] at hmem
    exact ofNat_ne_lineFeed (by omega) hmem
  split at hmem
  · simp only [List.mem_cons, List.not_mem_nil, or_false] at hmem
    rcases hmem with hmem | hmem
    all_goals exact ofNat_ne_lineFeed (by omega) hmem
  split at hmem
  · simp only [List.mem_cons, List.not_mem_nil, or_false] at hmem
    rcases hmem with hmem | hmem | hmem
    all_goals exact ofNat_ne_lineFeed (by omega) hmem
  · simp only [List.mem_cons, List.not_mem_nil, or_false] at hmem
    rcases hmem with hmem | hmem | hmem | hmem
    all_goals exact ofNat_ne_lineFeed (by omega) hmem

theorem lineFeed_notMem_bytes (h : '\n' ∉ cs) : World.lineFeed ∉ bytes cs := by
  intro hmem
  obtain ⟨c, hc, hmem⟩ := List.mem_flatMap.1 hmem
  refine lineFeed_notMem_encode ?_ hmem
  rintro rfl
  exact h hc

end Text

/-! ### Lines -/

/-- The lines of a text as a question takes them, without the blanks around them. -/
def answers (cs : List Char) : List String := (lines cs).map fun line => String.ofList (trim line)

namespace World

theorem nextLine_feed {line : List UInt8} (h : lineFeed ∉ line) (rest : List UInt8) :
    nextLine (line ++ lineFeed :: rest) = (line ++ [lineFeed], rest) := by
  have hrun : Run (fun b => decide (b ≠ lineFeed)) line (lineFeed :: rest) := by
    refine .of_cons ?_ (by decide)
    intro b hb
    rw [decide_eq_true_eq]
    rintro rfl
    exact h hb
  unfold nextLine
  rw [span_eq_iff.2 ⟨rfl, hrun⟩]

theorem nextLine_last {line : List UInt8} (h : lineFeed ∉ line) : nextLine line = (line, []) := by
  have hrun : Run (fun b => decide (b ≠ lineFeed)) line [] := by
    refine ⟨?_, by simp⟩
    intro b hb
    rw [decide_eq_true_eq]
    rintro rfl
    exact h hb
  unfold nextLine
  rw [span_eq_iff.2 ⟨(List.append_nil line).symm, hrun⟩]

end World

/-- A text that is not empty has a first line. -/
theorem exists_line {cs : List Char} (h : cs ≠ []) : ∃ line rest, '\n' ∉ line ∧
    (cs = line ∧ rest = [] ∨ cs = line ++ '\n' :: rest) ∧
    answers cs = String.ofList (trim line) :: answers rest := by
  have hrun := Run.of_takeWhile (fun c => decide (c ≠ '\n')) cs
  have hcs : cs.takeWhile (fun c => decide (c ≠ '\n')) ++
      cs.dropWhile (fun c => decide (c ≠ '\n')) = cs := List.takeWhile_append_dropWhile
  revert hrun hcs
  generalize cs.takeWhile (fun c => decide (c ≠ '\n')) = line
  generalize cs.dropWhile (fun c => decide (c ≠ '\n')) = rest
  rintro hrun rfl
  have hline : '\n' ∉ line := by
    intro hmem
    exact of_decide_eq_true (hrun.all _ hmem) rfl
  cases rest with
  | nil =>
    rw [List.append_nil] at h ⊢
    refine ⟨line, [], hline, .inl ⟨rfl, rfl⟩, ?_⟩
    rw [answers, lines_last hline h]
    rfl
  | cons c rest =>
    obtain rfl : c = '\n' := by
      by_contra hc
      exact absurd (hrun.stops c rfl) (by simpa using hc)
    refine ⟨line, rest, hline, .inr rfl, ?_⟩
    have happ : line ++ '\n' :: rest = line ++ ['\n'] ++ rest := by simp
    rw [answers, happ, lines_append (.feed line), lines_line hline, List.map_append,
      List.map_singleton, trim_dropReturn]
    rfl

theorem notMem_of_mem_answers {cs : List Char} {answer : String} (h : answer ∈ answers cs) :
    '\n' ∉ answer.toList := by
  by_cases hcs : cs = []
  · subst hcs
    cases h
  obtain ⟨line, rest, hline, hsplit, hanswers⟩ := exists_line hcs
  rw [hanswers] at h
  rcases List.mem_cons.1 h with rfl | h
  · rw [String.toList_ofList]
    intro hmem
    exact hline (trim_subset _ hmem)
  · have hlt : rest.length < cs.length := by
      rcases hsplit with ⟨rfl, rfl⟩ | rfl
      · exact List.length_pos_iff.2 hcs
      · simp only [List.length_append, List.length_cons]
        omega
    exact notMem_of_mem_answers h
termination_by cs.length

namespace World

/-- **The first line of an input** is the first line of its text. -/
theorem nextLine_bytes {cs : List Char} (h : cs ≠ []) : ∃ line rest,
    nextLine (bytes cs) = (bytes line, bytes rest) ∧
      answers cs = String.ofList (trim line) :: answers rest := by
  obtain ⟨line, rest, hline, hsplit, hanswers⟩ := exists_line h
  have hbytes := lineFeed_notMem_bytes hline
  rcases hsplit with ⟨rfl, rfl⟩ | rfl
  · exact ⟨cs, [], nextLine_last hbytes, hanswers⟩
  · refine ⟨line ++ ['\n'], rest, ?_, ?_⟩
    · rw [bytes_append, bytes_append, bytes_cons]
      exact nextLine_feed hbytes (bytes rest)
    · rw [trim_append_blank rfl]
      exact hanswers

/-! ### Taking from the input -/

/-- **The next line** ends with the first line feed, or with the input. -/
theorem nextLine_cases (input : List UInt8) : ∃ line, lineFeed ∉ line ∧
    (input = line ∧ nextLine input = (line, []) ∨
      ∃ rest, input = line ++ lineFeed :: rest ∧ nextLine input = (line ++ [lineFeed], rest)) := by
  obtain ⟨hinput, hrun⟩ := span_eq_iff.1
    (Prod.eta (input.span fun b => decide (b ≠ lineFeed))).symm
  revert hinput hrun
  generalize (input.span fun b => decide (b ≠ lineFeed)).1 = line
  generalize (input.span fun b => decide (b ≠ lineFeed)).2 = rest
  rintro rfl hrun
  have hline : lineFeed ∉ line := by
    intro hmem
    exact of_decide_eq_true (hrun.all _ hmem) rfl
  refine ⟨line, hline, ?_⟩
  cases rest with
  | nil =>
    rw [List.append_nil]
    exact .inl ⟨rfl, nextLine_last hline⟩
  | cons b rest =>
    obtain rfl : b = lineFeed := by
      by_contra hb
      exact absurd (hrun.stops b rfl) (by simpa using hb)
    exact .inr ⟨rest, rfl, nextLine_feed hline rest⟩

theorem nextLine_length_lt {input : List UInt8} (h : input ≠ []) :
    (nextLine input).2.length < input.length := by
  obtain ⟨line, -, ⟨rfl, hnext⟩ | ⟨rest, rfl, hnext⟩⟩ := nextLine_cases input
  · rw [hnext]
    exact List.length_pos_iff.2 h
  · rw [hnext]
    simp only [List.length_append, List.length_cons]
    omega

/-- **What a log line does** besides being written: it stands in the log file, if there is one. -/
theorem logged_cases (w : World) (l : Log.Line) : (w.logged l).input = w.input ∧
    ((w.logged l).folder = w.folder ∧ (w.logged l).sink = w.sink ∨
      ∃ level name place, w.sink = some ⟨level, some (name, place)⟩ ∧
        (w.logged l).folder = overwrite w.folder name place (l.stamped w.moment.clock) ∧
        (w.logged l).sink =
          some ⟨level, some (name, place + (l.stamped w.moment.clock).utf8ByteSize)⟩) := by
  unfold logged
  rcases hsink : w.sink with _ | ⟨level, file⟩
  · exact ⟨rfl, .inl ⟨rfl, rfl⟩⟩
  dsimp only
  cases Log.Threshold.admits (some level) l.level with
  | false => exact ⟨rfl, .inl ⟨rfl, rfl⟩⟩
  | true =>
    -- which of the two outputs it is written to makes no difference to the rest
    by_cases herror : l.level = .error
    all_goals rcases file with _ | ⟨name, place⟩
    all_goals simp [herror]

/-- Quiet requests take nothing from the input. -/
theorem meet_input {r : Request} (h : r.IsQuiet) (w : World) : (meet r w).2.input = w.input := by
  cases h with
  | log line => exact (w.logged_cases line).1
  | write | complain | readFile | now | instant | measure => rfl

theorem meet_input_le (r : Request) (w : World) : (meet r w).2.input.length ≤ w.input.length := by
  cases r with
  | readLine =>
    unfold meet
    cases hw : w.input with
    | nil => simp [hw]
    | cons b input =>
      have hlt := nextLine_length_lt (List.cons_ne_nil b input)
      simpa [hw] using Nat.le_of_lt hlt
  | log l => exact Nat.le_of_eq (congrArg List.length (w.logged_cases l).1)
  | appendFile | createFile | startLog =>
    dsimp only [meet]
    split <;> exact Nat.le_refl _
  | write | complain | readFile | now | instant | measure => exact Nat.le_refl _

/-- **No dialogue adds to the input.** -/
theorem answer_input_le {α : Type} (d : Dialogue α) (w : World) :
    (w.answer d).2.input.length ≤ w.input.length := by
  induction d generalizing w with
  | done a => exact Nat.le_refl _
  | ask r next ih => exact Nat.le_trans (ih (meet r w).1 (meet r w).2) (meet_input_le r w)

/-! ### Questions -/

/-- A question at the end of the input. -/
theorem answer_ask_end {w : World} (question : String) (h : w.input = []) :
    w.answer (ask question).run = (.ok none, { w with output := w.output ++ question }) := by
  obtain ⟨input, folder, output, errors, sink, lines, moment⟩ := w
  cases h
  rfl

/-- **A question** takes a line of the input. -/
theorem answer_ask {w : World} (question : String) (h : w.input ≠ []) :
    w.answer (ask question).run =
      ((decode (packed (nextLine w.input).1)).map fun text => some (trimmed text),
        { w with output := w.output ++ question, input := (nextLine w.input).2 }) := by
  obtain ⟨input, folder, output, errors, sink, lines, moment⟩ := w
  cases input with
  | nil => exact absurd rfl h
  | cons b input =>
    have hline : ∀ w : World, w.answer (do
        let text ← ExceptT.mk (pure (decode (packed (nextLine (b :: input)).1)))
        return some (trimmed text) : ExceptT FileError Dialogue (Option String)).run =
          ((decode (packed (nextLine (b :: input)).1)).map fun text => some (trimmed text), w) := by
      intro w
      cases decode (packed (nextLine (b :: input)).1) <;> rfl
    exact hline _

/-- A question that is answered has taken from the input. -/
theorem ask_input_lt {question : String} {w : World} (h : w.input ≠ []) :
    (w.answer (ask question).run).2.input.length < w.input.length := by
  rw [answer_ask question h]
  exact nextLine_length_lt h

end World

namespace Menu

/-- Another pass follows only if a choice was read. -/
theorem pass_input_lt {s : Settings} {w : World} (h : (w.answer (pass s)).1 = .again) :
    (w.answer (pass s)).2.input.length < w.input.length := by
  unfold pass at h ⊢
  rw [World.answer_bind] at h ⊢
  by_cases hw : w.input = []
  · -- the end of the input is the choice to leave
    rw [World.answer_ask_end _ hw] at h
    cases h
  · exact Nat.lt_of_le_of_lt (World.answer_input_le _ _) (World.ask_input_lt hw)

/-- **A run is one pass and, if that says so, a run in the world after it.** -/
theorem run_eq (s : Settings) (w : World) : run s w =
    if (w.answer (pass s)).1 = .again then run s (w.answer (pass s)).2 else w.answer (pass s) := by
  have hlt := pass_input_lt (s := s) (w := w)
  rw [run]
  generalize w.answer (pass s) = after at hlt ⊢
  obtain ⟨next, after⟩ := after
  cases next with
  | again =>
    rw [if_pos rfl]
    exact if_pos (hlt rfl)
  | left | unreadable | stopped => rfl

end Menu

end Quadrature

import Quadrature.Proofs.Session.Input

/-!
# The lines of an input

An input of bytes falls into lines, each with the line feed that ends it, whether or not they are
text. What a line answers to a question is its text without the blanks around it, if it is text.

* `inputLines`: the lines of an input, `flatten_inputLines`: which make it up.
* `answerOf`: what a line answers, `notMem_of_answerOf`: **an answer has no line feed.**
-/

namespace Quadrature

open Text World

/-! ### Lines of an input -/

/-- The lines of an input, each with the line feed that ends it. -/
def inputLines : List UInt8 → List (List UInt8)
  | [] => []
  | b :: more => (nextLine (b :: more)).1 :: inputLines (nextLine (b :: more)).2
termination_by input => input.length
decreasing_by exact nextLine_length_lt (List.cons_ne_nil b more)

theorem inputLines_nil : inputLines [] = [] := by
  rw [inputLines]

theorem inputLines_of_ne_nil {input : List UInt8} (h : input ≠ []) :
    inputLines input = (nextLine input).1 :: inputLines (nextLine input).2 := by
  cases input with
  | nil => exact absurd rfl h
  | cons b more => rw [inputLines]

theorem nextLine_append (input : List UInt8) : (nextLine input).1 ++ (nextLine input).2 = input := by
  obtain ⟨line, -, ⟨rfl, hnext⟩ | ⟨rest, rfl, hnext⟩⟩ := nextLine_cases input
  · rw [hnext, List.append_nil]
  · rw [hnext]
    exact List.append_assoc line [lineFeed] rest

/-- **The lines make up the input.** -/
theorem flatten_inputLines (input : List UInt8) : (inputLines input).flatten = input := by
  by_cases h : input = []
  · subst h
    rw [inputLines_nil]
    rfl
  · rw [inputLines_of_ne_nil h, List.flatten_cons, flatten_inputLines, nextLine_append]
termination_by input.length
decreasing_by exact nextLine_length_lt h

/-- A line of an input has no line feed but one that may end it. -/
theorem line_of_mem_inputLines {input line : List UInt8} (h : line ∈ inputLines input) :
    ∃ body, lineFeed ∉ body ∧ (line = body ∨ line = body ++ [lineFeed]) := by
  by_cases hinput : input = []
  · rw [hinput, inputLines_nil] at h
    cases h
  rw [inputLines_of_ne_nil hinput] at h
  rcases List.mem_cons.1 h with rfl | h
  · obtain ⟨body, hbody, ⟨-, hnext⟩ | ⟨rest, -, hnext⟩⟩ := nextLine_cases input
    · exact ⟨body, hbody, .inl (congrArg Prod.fst hnext)⟩
    · exact ⟨body, hbody, .inr (congrArg Prod.fst hnext)⟩
  · exact line_of_mem_inputLines h
termination_by input.length
decreasing_by exact nextLine_length_lt hinput

/-! ### Answers -/

/-- What a line of the input answers, without the blanks around it. -/
def answerOf (line : List UInt8) : Except FileError String := (decode (packed line)).map trimmed

theorem toUTF8_of_decode {b : ByteArray} {text : String} (h : decode b = .ok text) :
    b = text.toUTF8 := by
  unfold decode String.fromUTF8? at h
  split at h
  · rename_i heq
    obtain rfl := Except.ok.inj h
    split at heq
    · obtain rfl := Option.some.inj heq
      rfl
    · cases heq
  · cases h

/-- The text of a line has no line feed but one that may end it. -/
theorem text_of_line {input : List UInt8} {cs : List Char} (h : bytes cs ∈ inputLines input) :
    ∃ first, '\n' ∉ first ∧ (cs = first ∨ cs = first ++ ['\n']) := by
  by_cases hcs : cs = []
  · exact ⟨[], List.not_mem_nil, .inl hcs⟩
  obtain ⟨first, rest, hfirst, ⟨rfl, -⟩ | rfl, -⟩ := exists_line hcs
  · exact ⟨cs, hfirst, .inl rfl⟩
  -- nothing stands behind the line feed, since the bytes are one line
  have hbytes : bytes (first ++ '\n' :: rest) = bytes first ++ lineFeed :: bytes rest := by
    rw [bytes_append, bytes_cons]
    rfl
  have hrest : bytes rest = [] := by
    obtain ⟨body, hbody, heq | heq⟩ := line_of_mem_inputLines h
    · refine absurd ?_ hbody
      rw [← heq, hbytes]
      exact List.mem_append_right _ List.mem_cons_self
    · have hnext := nextLine_feed (lineFeed_notMem_bytes hfirst) (bytes rest)
      rw [← hbytes, heq, nextLine_feed hbody []] at hnext
      exact (congrArg Prod.snd hnext).symm
  obtain rfl : rest = [] := by
    by_contra hne
    exact bytes_ne_nil hne hrest
  exact ⟨first, hfirst, .inr rfl⟩

/-- **An answer is a line**: it has no line feed. -/
theorem notMem_of_answerOf {input line : List UInt8} {answer : String}
    (hline : line ∈ inputLines input) (h : answerOf line = .ok answer) : '\n' ∉ answer.toList := by
  unfold answerOf at h
  cases hdecode : decode (packed line) with
  | error e =>
    rw [hdecode] at h
    cases h
  | ok text =>
    rw [hdecode] at h
    obtain rfl : trimmed text = answer := Except.ok.inj h
    obtain rfl := eq_bytes_of_packed (toUTF8_of_decode hdecode)
    rw [trimmed, String.toList_ofList]
    obtain ⟨first, hfirst, htext | htext⟩ := text_of_line hline
    · rw [htext]
      exact fun hmem => hfirst (trim_subset _ hmem)
    · rw [htext, trim_append_blank rfl]
      exact fun hmem => hfirst (trim_subset _ hmem)

end Quadrature

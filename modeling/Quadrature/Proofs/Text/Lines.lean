import Mathlib.Data.List.DropRight
import Mathlib.Data.List.TakeWhile
import Quadrature.Text.Blank

/-!
# Lines

A text whose last line is ended can be continued: what follows it begins a new line.

* `trim_blanks_append`, `trim_append_blanks`: blanks around a text are trimmed off,
  `exists_blanks`: and nothing else.
* `trim_dropReturn`: a carriage return makes no difference to a line without the blanks around it.
* `isTrimmed_trim`, `IsTrimmed.trim_eq`: a text without the blanks around it stays as it is.
* `lines_append`: **the lines of a text that is continued after a line feed.**
* `lines_line`, `lines_last`: a single line.
* `unended`, `exists_ended_append`: the last line of a text, where no line feed ends it.
-/

namespace Quadrature.Text

variable {cs ds line : List Char}

/-! ### Blanks at the ends -/

theorem trimRight_append_blank {b : Char} (hb : isBlank b = true) (cs : List Char) :
    trimRight (cs ++ [b]) = trimRight cs := by
  unfold trimRight
  rw [List.reverse_append, List.reverse_singleton, List.singleton_append, List.dropWhile_cons,
    if_pos hb]

/-- A blank at the end is trimmed off. -/
theorem trim_append_blank {b : Char} (hb : isBlank b = true) (cs : List Char) :
    trim (cs ++ [b]) = trim cs := by
  unfold trim trimLeft
  rw [List.dropWhile_append]
  by_cases h : (cs.dropWhile isBlank).isEmpty = true
  · -- nothing but blanks is there
    rw [if_pos h, List.isEmpty_iff.1 h, List.dropWhile_cons, if_pos hb, List.dropWhile_nil]
  · rw [if_neg h, trimRight_append_blank hb]

/-- So are any number of blanks at the end, -/
theorem trim_append_blanks {after : List Char} (h : ∀ b ∈ after, isBlank b = true)
    (cs : List Char) : trim (cs ++ after) = trim cs := by
  induction after generalizing cs with
  | nil => rw [List.append_nil]
  | cons b after ih =>
    have hafter : ∀ d ∈ after, isBlank d = true := fun d hd => h d (List.mem_cons_of_mem _ hd)
    rw [List.append_cons, ih hafter, trim_append_blank (h b List.mem_cons_self)]

/-- and at the beginning. -/
theorem trim_blanks_append {before : List Char} (h : ∀ b ∈ before, isBlank b = true)
    (cs : List Char) : trim (before ++ cs) = trim cs := by
  unfold trim trimLeft
  rw [List.dropWhile_append_of_pos h]

theorem trim_dropReturn (line : List Char) : trim (dropReturn line) = trim line := by
  unfold dropReturn
  by_cases h : line.getLast? = some '\r'
  · rw [if_pos h]
    obtain ⟨ds, rfl⟩ := List.getLast?_eq_some_iff.1 h
    rw [List.dropLast_concat, trim_append_blank rfl]
  · rw [if_neg h]

/-- A text with no blank at either end. -/
structure IsTrimmed (cs : List Char) : Prop where
  head : ∀ c ∈ cs.head?, isBlank c = false
  last : ∀ c ∈ cs.getLast?, isBlank c = false

theorem dropWhile_blank_eq (h : ∀ c ∈ cs.head?, isBlank c = false) : cs.dropWhile isBlank = cs := by
  cases cs with
  | nil => rfl
  | cons c cs => rw [List.dropWhile_cons, h c rfl, if_neg Bool.false_ne_true]

theorem IsTrimmed.trim_eq (h : IsTrimmed cs) : trim cs = cs := by
  have hlast : ∀ c ∈ cs.reverse.head?, isBlank c = false := by
    rw [List.head?_reverse]
    exact h.last
  unfold trim trimLeft trimRight
  rw [dropWhile_blank_eq h.head, dropWhile_blank_eq hlast, List.reverse_reverse]

theorem IsTrimmed.trimmed_eq {text : String} (h : IsTrimmed text.toList) : trimmed text = text := by
  unfold trimmed
  rw [h.trim_eq, String.ofList_toList]

theorem head_dropWhile_blank (cs : List Char) : ∀ c ∈ (cs.dropWhile isBlank).head?,
    isBlank c = false := by
  intro c hc
  have h := List.head?_dropWhile_not isBlank cs
  rw [Option.mem_def.1 hc] at h
  exact h

/-- **Trimming leaves no blank at either end.** -/
theorem isTrimmed_trim (cs : List Char) : IsTrimmed (trim cs) where
  head := by
    intro c hc
    -- what is left begins as the text does without its leading blanks
    have hprefix : trim cs <+: trimLeft cs := by
      have hsuffix := (trimLeft cs).reverse.dropWhile_suffix isBlank
      rw [← List.reverse_prefix, List.reverse_reverse] at hsuffix
      exact hsuffix
    obtain ⟨rest, hrest⟩ := hprefix
    refine head_dropWhile_blank cs c ?_
    change c ∈ (trimLeft cs).head?
    rw [← hrest, List.head?_append, Option.mem_def.1 hc]
    rfl
  last := by
    intro c hc
    refine head_dropWhile_blank (trimLeft cs).reverse c ?_
    rw [← List.getLast?_reverse]
    exact hc

theorem trim_subset (cs : List Char) : trim cs ⊆ cs := by
  intro c hc
  have hc := List.dropWhile_subset isBlank (List.mem_reverse.1 hc)
  exact List.dropWhile_subset isBlank (List.mem_reverse.1 hc)

theorem blank_iff : blank cs = true ↔ ∀ c ∈ cs, isBlank c = true := List.all_eq_true

/-- Nothing is left of blanks alone. -/
theorem trim_eq_nil_iff : trim cs = [] ↔ blank cs = true := by
  unfold trim trimRight trimLeft
  rw [List.reverse_eq_nil_iff, List.dropWhile_eq_nil_iff, blank_iff]
  constructor
  · intro h c hc
    rw [← List.takeWhile_append_dropWhile (p := isBlank) (l := cs)] at hc
    rcases List.mem_append.1 hc with hc | hc
    · exact List.mem_takeWhile_imp hc
    · exact h c (List.mem_reverse.2 hc)
  · intro h c hc
    exact h c (List.dropWhile_subset isBlank (List.mem_reverse.1 hc))

/-- What is trimmed off are blanks. -/
theorem exists_blanks (cs : List Char) : ∃ before after, (∀ b ∈ before, isBlank b = true) ∧
    (∀ b ∈ after, isBlank b = true) ∧ cs = before ++ (trim cs ++ after) := by
  refine ⟨cs.takeWhile isBlank, ((trimLeft cs).reverse.takeWhile isBlank).reverse, ?_, ?_, ?_⟩
  · intro b hb
    exact List.mem_takeWhile_imp hb
  · intro b hb
    exact List.mem_takeWhile_imp (List.mem_reverse.1 hb)
  · unfold trim trimRight
    rw [← List.reverse_append, List.takeWhile_append_dropWhile, List.reverse_reverse]
    exact List.takeWhile_append_dropWhile.symm

/-! ### Line feeds -/

/-- Nothing, or a text that a line feed ends. -/
inductive Ended : List Char → Prop
  | nil : Ended []
  | feed (cs : List Char) : Ended (cs ++ ['\n'])

theorem Ended.append (hd : Ended ds) (h : Ended cs) : Ended (cs ++ ds) := by
  cases hd with
  | nil =>
    rw [List.append_nil]
    exact h
  | feed es =>
    rw [← List.append_assoc]
    exact .feed (cs ++ es)

theorem linesOfPieces_append (ps : List (List Char)) {qs : List (List Char)} (h : qs ≠ []) :
    linesOfPieces (ps ++ qs) = ps.map dropReturn ++ linesOfPieces qs := by
  induction ps with
  | nil => rfl
  | cons p ps ih =>
    -- what follows a piece is not empty, so it is not the last one
    have hne : ps ++ qs ≠ [] := List.append_ne_nil_of_right_ne_nil ps h
    rw [List.cons_append, List.map_cons, List.cons_append, ← ih]
    cases hrest : ps ++ qs with
    | nil => exact absurd hrest hne
    | cons q rest => rfl

theorem lines_append_feed (cs ds : List Char) :
    lines (cs ++ '\n' :: ds) = (cs.splitOn '\n').map dropReturn ++ lines ds := by
  have hsplit : (cs ++ '\n' :: ds).splitOn '\n' = cs.splitOn '\n' ++ ds.splitOn '\n' :=
    List.splitOnP_append_cons cs ds (beq_self_eq_true '\n')
  unfold lines
  rw [hsplit]
  exact linesOfPieces_append _ (List.splitOnP_ne_nil _ ds)

@[simp] theorem lines_nil : lines [] = [] := rfl

/-- **Lines after a line feed.** -/
theorem lines_append (h : Ended cs) (ds : List Char) : lines (cs ++ ds) = lines cs ++ lines ds := by
  cases h with
  | nil => rfl
  | feed cs =>
    rw [List.append_assoc, List.singleton_append, lines_append_feed, lines_append_feed, lines_nil,
      List.append_nil]

theorem splitOn_of_notMem (h : '\n' ∉ line) : line.splitOn '\n' = [line] := by
  refine List.splitOnP_eq_singleton ?_
  intro c hc
  rw [beq_eq_false_iff_ne]
  rintro rfl
  exact h hc

/-- A line that is ended is one line. -/
theorem lines_line (h : '\n' ∉ line) : lines (line ++ ['\n']) = [dropReturn line] := by
  rw [lines_append_feed, splitOn_of_notMem h, lines_nil, List.append_nil]
  rfl

/-- So is the last line, if something stands in it. -/
theorem lines_last (h : '\n' ∉ line) (hne : line ≠ []) : lines line = [line] := by
  unfold lines
  rw [splitOn_of_notMem h]
  exact if_neg (mt List.isEmpty_iff.1 hne)

/-- What stands behind the last line feed of a text: its last line, if it is not ended. -/
def unended (cs : List Char) : List Char := cs.rtakeWhile (· ≠ '\n')

theorem notMem_unended (cs : List Char) : '\n' ∉ unended cs := by
  intro hfeed
  have hne := List.mem_rtakeWhile_imp hfeed
  exact absurd rfl (of_decide_eq_true hne)

/-- Before it all lines are ended. -/
theorem exists_ended_append (cs : List Char) : ∃ before, Ended before ∧ cs = before ++ unended cs := by
  induction cs using List.reverseRecOn with
  | nil => exact ⟨[], .nil, rfl⟩
  | append_singleton cs c ih =>
    unfold unended
    rw [List.rtakeWhile_concat]
    by_cases hc : c = '\n'
    · subst hc
      exact ⟨cs ++ ['\n'], .feed cs, by simp⟩
    · obtain ⟨before, hbefore, hcs⟩ := ih
      refine ⟨before, hbefore, ?_⟩
      rw [if_pos (decide_eq_true hc), ← List.append_assoc]
      exact congrArg (· ++ [c]) hcs

end Quadrature.Text

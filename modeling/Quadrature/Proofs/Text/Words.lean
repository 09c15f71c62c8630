import Quadrature.Proofs.Text.Lines

/-!
# Words and the blanks between them

* `words_append_cons`: a blank ends a word and begins the next one.
* `words_intercalate`: **words that are joined by spaces are found again.**
* `words_trim`: blanks around a text make no difference.
* `length_words`: **a text has at most half as many words as characters**, rounded up.
-/

namespace Quadrature.Text

@[simp] theorem words_nil : words [] = [] := rfl

/-- A text without a blank is a word, unless it is empty. -/
theorem words_of_not_blank {w : List Char} (hw : ∀ c ∈ w, isBlank c = false) (hne : w ≠ []) :
    words w = [w] := by
  unfold words
  rw [List.splitOnP_eq_singleton hw]
  simp [hne]

theorem words_append_cons (cs : List Char) {b : Char} (hb : isBlank b = true) (ds : List Char) :
    words (cs ++ b :: ds) = words cs ++ words ds := by
  unfold words
  rw [List.splitOnP_append_cons cs ds hb, List.filter_append]

theorem words_intercalate {ws : List (List Char)} (hb : ∀ w ∈ ws, ∀ c ∈ w, isBlank c = false)
    (hne : ∀ w ∈ ws, w ≠ []) : words ([' '].intercalate ws) = ws := by
  induction ws with
  | nil => rfl
  | cons w ws ih =>
    have hw := words_of_not_blank (hb w List.mem_cons_self) (hne w List.mem_cons_self)
    cases ws with
    | nil => rw [List.intercalate_singleton, hw]
    | cons v ws =>
      have ih := ih (fun u hu => hb u (List.mem_cons_of_mem _ hu))
        fun u hu => hne u (List.mem_cons_of_mem _ hu)
      rw [List.intercalate_cons_cons, List.append_assoc, List.singleton_append,
        words_append_cons w rfl, hw, ih]
      rfl

/-! ### Blanks at the ends -/

theorem words_blanks_append {before : List Char} (h : ∀ b ∈ before, isBlank b = true)
    (cs : List Char) : words (before ++ cs) = words cs := by
  induction before with
  | nil => rfl
  | cons b before ih =>
    have hrest := ih fun c hc => h c (List.mem_cons_of_mem _ hc)
    have hb := words_append_cons [] (h b List.mem_cons_self) (before ++ cs)
    rw [List.cons_append]
    exact hb.trans hrest

theorem words_append_blanks {after : List Char} (h : ∀ b ∈ after, isBlank b = true)
    (cs : List Char) : words (cs ++ after) = words cs := by
  cases after with
  | nil => rw [List.append_nil]
  | cons b after =>
    have hafter := words_blanks_append (fun c hc => h c (List.mem_cons_of_mem _ hc)) []
    rw [List.append_nil] at hafter
    rw [words_append_cons cs (h b List.mem_cons_self), hafter, words_nil, List.append_nil]

/-- The words are those of the trimmed text. -/
theorem words_trim (cs : List Char) : words (trim cs) = words cs := by
  obtain ⟨before, after, hbefore, hafter, hcs⟩ := exists_blanks cs
  conv_rhs => rw [hcs]
  rw [words_blanks_append hbefore, words_append_blanks hafter]

/-! ### How many words there are -/

/-- Before the first blank there is one word at most. -/
theorem length_words_le_one {w : List Char} (hw : ∀ c ∈ w, isBlank c = false) :
    2 * (words w).length ≤ w.length + 1 := by
  by_cases hne : w = []
  · subst hne
    exact Nat.zero_le _
  · have hpos := List.length_pos_iff.2 hne
    rw [words_of_not_blank hw hne, List.length_singleton]
    omega

/-- **A text has at most half as many words as characters**, rounded up: every word has a character,
and between two words stands a blank. -/
theorem length_words (cs : List Char) : 2 * (words cs).length ≤ cs.length + 1 := by
  have hword : ∀ c ∈ cs.takeWhile (!isBlank ·), isBlank c = false := by
    intro c hc
    have hnot := List.mem_takeWhile_imp hc
    rwa [Bool.not_eq_true'] at hnot
  have hfirst := length_words_le_one hword
  have hcs := cs.takeWhile_append_dropWhile (p := (!isBlank ·))
  generalize cs.takeWhile (!isBlank ·) = w at *
  cases hrest : cs.dropWhile (!isBlank ·) with
  | nil =>
    rw [hrest, List.append_nil] at hcs
    rw [← hcs]
    exact hfirst
  | cons b ds =>
    have hb : isBlank b = true := by
      have hnot := List.head?_dropWhile_not (!isBlank ·) cs
      rw [hrest, List.head?_cons] at hnot
      dsimp only at hnot
      rwa [Bool.not_eq_false'] at hnot
    rw [hrest] at hcs
    -- the words behind the blank are those of a shorter text
    have hlength : ds.length < cs.length := by
      rw [← hcs, List.length_append, List.length_cons]
      omega
    have hds := length_words ds
    rw [← hcs, words_append_cons w hb, List.length_append, List.length_append, List.length_cons]
    omega
termination_by cs.length

end Quadrature.Text

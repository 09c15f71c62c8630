import Mathlib.Data.List.Induction
import Quadrature.Proofs.Settings.Grammar
import Quadrature.Proofs.Text.Lines

/-!
# What a settings document says

A text without its comments is read if it is blank or one section after another with blanks behind
them. Its settings are then merged, and a line that is a comment may stand anywhere.

* `read_eq_ok_iff`: the texts that are read.
* `merged_foldl_put`: for each title and key the last setting counts.
* `read_comment`: a comment before any line makes no difference.
* `read_spec`: **the three together.**
-/

namespace Quadrature.Document

open Text

/-! ### Merging -/

/-- For each title and key the last of some settings. -/
structure Merged (settings : List Setting) (d : Document) : Prop where
  value?_eq : ∀ title key, d.value? title key =
    (settings.filter fun s => s.isAt title key).getLast?.map Setting.value
  distinct : d.Pairwise fun s t => s.isAt t.title t.key = false

theorem merged_nil : Merged [] [] where
  value?_eq _ _ := rfl
  distinct := .nil

theorem Merged.put {settings : List Setting} {d : Document} (h : Merged settings d) (s : Setting) :
    Merged (settings ++ [s]) (d.put s) where
  value?_eq title key := by
    rw [value?_put, h.value?_eq, List.filter_append, List.filter_cons, List.filter_nil]
    by_cases hs : s.isAt title key = true
    · rw [if_pos hs, if_pos hs, List.getLast?_concat]
      rfl
    · rw [if_neg hs, if_neg hs, List.append_nil]
  distinct := by
    unfold Document.put
    rw [List.pairwise_append]
    refine ⟨h.distinct.filter _, List.pairwise_singleton _ _, ?_⟩
    intro t ht u hu
    obtain rfl := List.mem_singleton.1 hu
    exact Bool.not_eq_true' _ ▸ (List.mem_filter.1 ht).2

/-- **Putting one setting after another merges them.** -/
theorem merged_foldl_put (settings : List Setting) : Merged settings (settings.foldl put []) := by
  induction settings using List.reverseRecOn with
  | nil => exact merged_nil
  | append_singleton settings s ih =>
    rw [List.foldl_append]
    exact ih.put s

/-! ### Comments -/

theorem isComment_dropReturn (line : List Char) : isComment (dropReturn line) = isComment line := by
  unfold isComment
  rw [trim_dropReturn]

theorem withoutComments_comment {before line : List Char} (hbefore : Ended before)
    (hline : '\n' ∉ line) (hcomment : isComment line = true) (after : List Char) :
    withoutComments (before ++ (line ++ ['\n'] ++ after)) = withoutComments (before ++ after) := by
  have hfilter : (lines (line ++ ['\n'])).filter (fun l => !isComment l) = [] := by
    rw [lines_line hline, List.filter_cons_of_neg, List.filter_nil]
    rw [isComment_dropReturn, hcomment]
    exact Bool.false_ne_true
  unfold withoutComments
  rw [lines_append hbefore, lines_append (.feed line), lines_append hbefore, List.filter_append,
    List.filter_append, List.filter_append, hfilter, List.nil_append]

variable {α : Type}

/-- What is read depends on the text without its comments alone. -/
theorem read_congr {text text' : String}
    (h : withoutComments text.toList = withoutComments text'.toList) :
    read (α := α) text = read text' := by
  unfold read
  rw [h]

theorem read_comment {before line : String} (hbefore : Ended before.toList)
    (hline : '\n' ∉ line.toList) (hcomment : isComment line.toList = true) (after : String) :
    read (α := α) (before ++ (line ++ "\n" ++ after)) = read (before ++ after) := by
  refine read_congr ?_
  simp only [String.toList_append]
  exact withoutComments_comment hbefore hline hcomment after.toList

/-! ### Reading -/

theorem read_eq_ok_iff {text : String} {d : Document} : read (α := α) text = .ok d ↔
    (blank (withoutComments text.toList) = true ∧ d = []) ∨
      ∃ sections rest, sections ≠ [] ∧
        Chain SectionAt (withoutComments text.toList) sections rest ∧ blank rest = true ∧
        d = sections.flatten.foldl put [] := by
  unfold read
  generalize withoutComments text.toList = kept
  dsimp only
  by_cases hblank : blank kept = true
  · rw [if_pos hblank]
    constructor
    · intro h
      exact .inl ⟨hblank, (Except.ok.inj h).symm⟩
    · rintro (⟨-, rfl⟩ | ⟨sections, rest, hne, hchain, -⟩)
      · rfl
      · exact absurd hblank (not_blank_of_chain hne hchain)
  · rw [if_neg hblank]
    constructor
    · intro h
      split at h
      · cases h
      rename_i sections rest hread
      split at h
      · rename_i hrest
        obtain ⟨hne, hchain⟩ := (many1_titled_eq_ok_iff hrest).1 hread
        exact .inr ⟨sections, rest, hne, hchain, hrest, (Except.ok.inj h).symm⟩
      · cases h
    · rintro (⟨hblank', -⟩ | ⟨sections, rest, hne, hchain, hrest, rfl⟩)
      · exact absurd hblank' hblank
      · rw [(many1_titled_eq_ok_iff hrest).2 ⟨hne, hchain⟩]
        dsimp only
        rw [if_pos hrest]

/-- **What a document says.** A text is read if it is blank without its comments, or if it is then
one section after another with blanks behind them; of the settings in these sections the last one
counts for each title and key. A comment before any line changes neither the settings nor the
error. -/
theorem read_spec :
    (∀ (text : String) (d : Document), read (α := α) text = .ok d ↔
      (blank (withoutComments text.toList) = true ∧ d = []) ∨
        ∃ sections rest, sections ≠ [] ∧
          Chain SectionAt (withoutComments text.toList) sections rest ∧ blank rest = true ∧
          d = sections.flatten.foldl put []) ∧
    (∀ settings, Merged settings (settings.foldl put [])) ∧
    ∀ before line after : String, Ended before.toList → '\n' ∉ line.toList →
      isComment line.toList = true →
      read (α := α) (before ++ (line ++ "\n" ++ after)) = read (before ++ after) := by
  refine ⟨?_, merged_foldl_put, ?_⟩
  · intro text d
    exact read_eq_ok_iff
  · intro before line after hbefore hline hcomment
    exact read_comment hbefore hline hcomment after

/-- Two sections of one title with a comment between them. -/
theorem read_twoSections :
    read (α := Float) "a k: 1\n# k: 2\na k: 3" = .ok [⟨"a", "k", "3"⟩] := by
  have hcomment := (read_spec (α := Float)).2.2 "a k: 1\n" "# k: 2" "a k: 3"
    (.feed ['a', ' ', 'k', ':', ' ', '1']) (by decide) (by decide)
  exact hcomment.trans (by decide +kernel)

end Quadrature.Document

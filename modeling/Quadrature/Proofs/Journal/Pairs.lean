import Mathlib.Tactic.Common
import Quadrature.Entry
import Quadrature.Journal
import Quadrature.Proofs.Text.Lines

/-!
# Whole pairs of lines

A file of saved functions is **whole** if its last line is ended and its lines that are not blank
come in pairs. An entry adds a pair to it, since neither an accepted integrand nor an interval can
be mistaken for a blank line or for two lines; so nothing that is saved ever shifts the pairs.

* `written_record`: the lines of a record.
* `Whole.append_record`, `Whole.entries_append_record`, `Whole.last?_append_record`: **one more
  record is one more entry.**
-/

namespace Quadrature

open Text

/-- A text that is a line of a file as it stands. -/
structure Line (text : String) : Prop where
  isTrimmed : IsTrimmed text.toList
  ne_nil : text.toList ≠ []
  noFeed : '\n' ∉ text.toList

theorem Line.trimmed_eq {text : String} (h : Line text) : trimmed text = text :=
  h.isTrimmed.trimmed_eq

theorem Line.not_blank {text : String} (h : Line text) : ¬ blank text.toList = true := by
  rw [← trim_eq_nil_iff, h.isTrimmed.trim_eq]
  exact h.ne_nil

/-- What is typed in one line is a line without the blanks around it, unless it is blank. -/
theorem line_trimmed {typed : String} (hblank : ¬ blank typed.toList = true)
    (hfeed : '\n' ∉ typed.toList) : Line (trimmed typed) := by
  unfold trimmed
  refine ⟨?_, ?_, ?_⟩
  · rw [String.toList_ofList]
    exact isTrimmed_trim _
  · rw [String.toList_ofList]
    exact mt trim_eq_nil_iff.1 hblank
  · rw [String.toList_ofList]
    exact fun h => hfeed (trim_subset _ h)

/-- An accepted integrand is what was typed without the blanks around it, and not too long. -/
theorem Integrand.of_accept {α : Type} {typed integrand : String}
    (h : accept (α := α) typed = .ok integrand) : integrand = trimmed typed ∧
      ¬ blank typed.toList = true ∧ (trim typed.toList).length ≤ maxLength := by
  unfold accept at h
  dsimp only at h
  split at h
  · cases h
  rename_i hempty
  split at h
  · cases h
  rename_i hlength
  obtain rfl := Except.ok.inj h
  rw [List.isEmpty_iff, trim_eq_nil_iff] at hempty
  exact ⟨rfl, hempty, Nat.not_lt.1 hlength⟩

/-- It is a line. -/
theorem Integrand.line_of_accept {α : Type} {typed integrand : String}
    (h : accept (α := α) typed = .ok integrand) (htyped : '\n' ∉ typed.toList) :
    Line integrand := by
  obtain ⟨rfl, hblank, -⟩ := of_accept h
  exact line_trimmed hblank htyped

/-- The characters of an interval. -/
theorem Interval.toList_line (start stop : String) : (line start stop).toList =
    ('[' :: (trim start.toList ++ [' ', ';', ' '] ++ trim stop.toList)) ++ [']'] := by
  simp [line, trimmed]

theorem Interval.isTrimmed_line (start stop : String) : IsTrimmed (line start stop).toList := by
  rw [toList_line]
  constructor
  · intro c hc
    cases hc
    rfl
  · intro c hc
    rw [List.getLast?_concat] at hc
    cases hc
    rfl

/-- An interval is a line as well. -/
theorem Interval.line_line {start stop : String} (hstart : '\n' ∉ start.toList)
    (hstop : '\n' ∉ stop.toList) : Line (line start stop) := by
  refine ⟨isTrimmed_line start stop, ?_, ?_⟩
  · rw [toList_line]
    exact List.append_ne_nil_of_right_ne_nil _ (List.cons_ne_nil _ _)
  · have hstart : '\n' ∉ trim start.toList := fun hfeed => hstart (trim_subset _ hfeed)
    have hstop : '\n' ∉ trim stop.toList := fun hfeed => hstop (trim_subset _ hfeed)
    rw [toList_line]
    simp [hstart, hstop]

/-- An entry as it is saved: both of its parts are lines. -/
structure Entry.Savable (e : Entry) : Prop where
  integrand : Line e.integrand
  interval : Line e.interval

namespace Journal

variable {text : String} {e : Entry}

/-! ### Lines -/

theorem written_append {text : String} (h : Ended text.toList) (more : String) :
    written (text ++ more) = written text ++ written more := by
  unfold written
  rw [String.toList_append, lines_append h, List.map_append, List.filter_append, List.map_append]

/-- A line counts without the blanks around it, unless it is blank. -/
theorem map_filter_trim (cs : List Char) :
    ([trim cs].filter fun l => !l.isEmpty).map String.ofList =
      if blank cs = true then [] else [String.ofList (trim cs)] := by
  by_cases h : blank cs = true
  · rw [if_pos h, trim_eq_nil_iff.2 h]
    rfl
  · have hempty : (trim cs).isEmpty = false :=
      List.isEmpty_eq_false_iff.2 (mt trim_eq_nil_iff.1 h)
    rw [if_neg h, List.filter_cons_of_pos (by rw [hempty]; rfl)]
    rfl

/-- What is written in one line. -/
theorem written_ended {line : String} (h : '\n' ∉ line.toList) :
    written (line ++ "\n") = if blank line.toList = true then [] else [trimmed line] := by
  unfold written
  rw [String.toList_append]
  change (((lines (line.toList ++ ['\n'])).map trim).filter _).map _ = _
  rw [lines_line h, List.map_singleton, trim_dropReturn, map_filter_trim]
  rfl

/-- The last line need not be ended. -/
theorem written_last {line : String} (h : '\n' ∉ line.toList) :
    written line = if blank line.toList = true then [] else [trimmed line] := by
  unfold written
  by_cases hne : line.toList = []
  · rw [hne]
    rfl
  · rw [lines_last h hne, List.map_singleton, map_filter_trim]
    rfl

theorem written_line {line : String} (h : Line line) : written (line ++ "\n") = [line] := by
  rw [written_ended h.noFeed, if_neg h.not_blank, h.trimmed_eq]

theorem ended_line (line : String) : Ended (line ++ "\n").toList := by
  rw [String.toList_append]
  exact .feed line.toList

theorem record_eq (h : e.Savable) : record e = e.integrand ++ "\n" ++ (e.interval ++ "\n") := by
  unfold record
  rw [h.integrand.trimmed_eq, h.interval.trimmed_eq, String.append_assoc]

/-- The lines of a record. -/
theorem written_record (h : e.Savable) : written (record e) = [e.integrand, e.interval] := by
  rw [record_eq h, written_append (ended_line _), written_line h.integrand, written_line h.interval]
  rfl

theorem ended_record (e : Entry) : Ended (record e).toList := ended_line _

/-! ### Pairs -/

theorem paired_append {as bs : List String} (h : as.length % 2 = 0) :
    paired (as ++ bs) = paired as ++ paired bs := by
  induction as using paired.induct with
  | case1 a b rest ih =>
    rw [List.length_cons, List.length_cons] at h
    have hpaired := ih (by omega)
    rw [List.cons_append, List.cons_append, paired, paired, hpaired]
    rfl
  | case2 as hshort =>
    -- one line alone is no pair, so there is none
    match as, h with
    | [], _ => rfl
    | a :: b :: rest, _ => exact absurd rfl (hshort a b rest)

/-- Two lines more are one entry more, -/
theorem entries_of_written {text' a b : String} (heven : (written text).length % 2 = 0)
    (h : written text' = written text ++ [a, b]) : entries text' = entries text ++ [⟨a, b⟩] := by
  unfold entries
  rw [h, paired_append heven]
  rfl

/-- the newest one. -/
theorem last?_of_written {text' a b : String} (heven : (written text).length % 2 = 0)
    (h : written text' = written text ++ [a, b]) : last? text' = some ⟨a, b⟩ := by
  have heven' : (written text').length % 2 = 0 := by
    rw [h, List.length_append, List.length_cons, List.length_cons, List.length_nil]
    omega
  unfold last? isDangling
  rw [heven', h, List.reverse_append]
  rfl

/-- A file with nothing but whole pairs. -/
structure Whole (text : String) : Prop where
  ended : Ended text.toList
  even : (written text).length % 2 = 0

theorem whole_empty : Whole "" where
  ended := .nil
  even := rfl

/-- A file that is missing counts as an empty one. -/
theorem whole_getD {content : Option String} (h : ∀ text ∈ content, Whole text) :
    Whole (content.getD "") := by
  cases content with
  | none => exact whole_empty
  | some text => exact h text rfl

namespace Whole

theorem written_append_record (h : Whole text) (he : e.Savable) :
    written (text ++ record e) = written text ++ [e.integrand, e.interval] := by
  rw [written_append h.ended, written_record he]

/-- **A record keeps a file whole.** -/
theorem append_record (h : Whole text) (he : e.Savable) : Whole (text ++ record e) where
  ended := by
    rw [String.toList_append]
    exact (ended_record e).append h.ended
  even := by
    have := h.even
    rw [h.written_append_record he, List.length_append]
    simp only [List.length_cons, List.length_nil]
    omega

/-- **One more record is one more entry.** -/
theorem entries_append_record (h : Whole text) (he : e.Savable) :
    entries (text ++ record e) = entries text ++ [e] :=
  entries_of_written h.even (h.written_append_record he)

/-- **It is the newest one.** -/
theorem last?_append_record (h : Whole text) (he : e.Savable) :
    last? (text ++ record e) = some e :=
  last?_of_written h.even (h.written_append_record he)

end Whole

end Journal

end Quadrature

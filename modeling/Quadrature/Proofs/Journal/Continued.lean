import Quadrature.Proofs.Journal.Pairs

/-!
# Files that are continued

A record is written right behind what the file holds, and the file may have been edited by hand. If
nothing but blanks stands behind its last line feed, the two lines of the record are lines of their
own, and a file with lines in pairs has one entry more. If a line stands there that is not ended, the
integrand becomes a part of that line and only the interval is a line of its own: the pairs are
shifted, and the entry is lost.

* `Entry.Writable`, `Entry.trimmed`: two texts that make two lines, and the entry that they make.
* `unendedLine`: the last line of a text, if it is not ended.
* `written_append_record`: **the lines of a file that a record continues,**
  `written_append_record_of_blank`: and those of one whose last line is ended or blank.
* `exists_continued`: what becomes of the entries where the integrand continues a line.
-/

namespace Quadrature

open Text

/-- Two texts with something to write in them, each for one line. -/
structure Entry.Writable (e : Entry) : Prop where
  integrand : ¬ blank e.integrand.toList = true
  interval : ¬ blank e.interval.toList = true
  integrand_noFeed : '\n' ∉ e.integrand.toList
  interval_noFeed : '\n' ∉ e.interval.toList

/-- An entry without the blanks around its parts. -/
def Entry.trimmed (e : Entry) : Entry := ⟨Text.trimmed e.integrand, Text.trimmed e.interval⟩

theorem Entry.Writable.savable {e : Entry} (h : e.Writable) : e.trimmed.Savable where
  integrand := line_trimmed h.integrand h.integrand_noFeed
  interval := line_trimmed h.interval h.interval_noFeed

namespace Journal

variable {text : String} {e : Entry}

/-- The record of an entry is that of its trimmed parts. -/
theorem record_trimmed (e : Entry) : record e.trimmed = record e := by
  have htrimmed : ∀ s : String, trimmed (trimmed s) = trimmed s := by
    intro s
    refine IsTrimmed.trimmed_eq ?_
    unfold trimmed
    rw [String.toList_ofList]
    exact isTrimmed_trim _
  unfold record Entry.trimmed
  dsimp only
  rw [htrimmed, htrimmed]

/-- The last line of a text, if it is not ended. -/
def unendedLine (text : String) : String := String.ofList (unended text.toList)

theorem unendedLine_noFeed (text : String) : '\n' ∉ (unendedLine text).toList := by
  unfold unendedLine
  rw [String.toList_ofList]
  exact notMem_unended _

/-- Before it all lines are ended. -/
theorem exists_ended (text : String) :
    ∃ before : String, Ended before.toList ∧ text = before ++ unendedLine text := by
  obtain ⟨before, hbefore, htext⟩ := exists_ended_append text.toList
  refine ⟨String.ofList before, by rwa [String.toList_ofList], ?_⟩
  unfold unendedLine
  rw [← String.ofList_append, ← htext, String.ofList_toList]

/-- **The lines of a file that a record continues.** -/
theorem written_append_record {before last : String} (hbefore : Ended before.toList)
    (hlast : '\n' ∉ last.toList) (he : e.Savable) :
    written (before ++ last ++ record e) =
      written before ++ [trimmed (last ++ e.integrand), e.interval] := by
  have hfeed : '\n' ∉ (last ++ e.integrand).toList := by
    rw [String.toList_append]
    exact List.not_mem_append hlast he.integrand.noFeed
  have hblank : ¬ blank (last ++ e.integrand).toList = true := by
    rw [String.toList_append, blank_iff]
    exact fun h => he.integrand.not_blank (blank_iff.2 fun c hc => h c (List.mem_append_right _ hc))
  have htext : before ++ last ++ record e =
      before ++ (last ++ e.integrand ++ "\n" ++ (e.interval ++ "\n")) := by
    rw [record_eq he]
    simp only [String.append_assoc]
  rw [htext, written_append hbefore, written_append (ended_line _), written_line he.interval,
    written_ended hfeed, if_neg hblank]
  rfl

/-- Behind blanks they are lines of their own. -/
theorem written_append_record_of_blank (hblank : blank (unendedLine text).toList = true)
    (he : e.Savable) : written (text ++ record e) = written text ++ [e.integrand, e.interval] := by
  obtain ⟨before, hbefore, htext⟩ := exists_ended text
  have hlast := unendedLine_noFeed text
  generalize unendedLine text = last at *
  subst htext
  have htrimmed : trimmed (last ++ e.integrand) = e.integrand := by
    unfold trimmed
    rw [String.toList_append, trim_blanks_append (blank_iff.1 hblank), he.integrand.isTrimmed.trim_eq,
      String.ofList_toList]
  rw [written_append_record hbefore hlast he, written_append hbefore, written_last hlast,
    if_pos hblank, List.append_nil, htrimmed]

/-- **What becomes of the entries** where the integrand continues a line: it is added to the interval
of the last one, and the file ends with an integrand that has no interval. -/
theorem exists_continued (heven : (written text).length % 2 = 0)
    (hblank : ¬ blank (unendedLine text).toList = true) (he : e.Savable) :
    ∃ es integrand,
      entries text = es ++ [⟨integrand, trimmed (unendedLine text)⟩] ∧
      entries (text ++ record e) = es ++ [⟨integrand, trimmed (unendedLine text ++ e.integrand)⟩] ∧
      last? (text ++ record e) = none := by
  obtain ⟨before, hbefore, htext⟩ := exists_ended text
  have hlast := unendedLine_noFeed text
  generalize unendedLine text = last at *
  subst htext
  have hwritten := written_append_record hbefore hlast he
  rw [written_append hbefore, written_last hlast, if_neg hblank, List.length_append,
    List.length_singleton] at heven
  -- the line that is continued is an interval, so an integrand stands before it
  obtain ⟨lines, integrand, hlines⟩ : ∃ lines integrand, written before = lines ++ [integrand] := by
    rcases List.eq_nil_or_concat' (written before) with hnil | hconcat
    · rw [hnil] at heven
      cases heven
    · exact hconcat
  rw [hlines, List.length_append, List.length_singleton] at heven
  have heven' : lines.length % 2 = 0 := by omega
  refine ⟨paired lines, integrand, ?_, ?_, ?_⟩
  · unfold entries
    rw [written_append hbefore, written_last hlast, if_neg hblank, hlines, List.append_assoc,
      paired_append heven']
    rfl
  · unfold entries
    rw [hwritten, hlines, List.append_assoc, paired_append heven']
    rfl
  · have hdangling : isDangling (before ++ last ++ record e) = true := by
      unfold isDangling
      rw [hwritten, hlines, List.length_append, List.length_append, beq_iff_eq]
      simp only [List.length_cons, List.length_nil]
      omega
    unfold last?
    rw [if_pos hdangling]

end Journal

end Quadrature

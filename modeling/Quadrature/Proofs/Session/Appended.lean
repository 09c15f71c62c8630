import Quadrature.Proofs.Journal.Continued
import Quadrature.Proofs.Session.FunctionsFile

/-!
# Saving an entry

An entry that is saved is read back from the functions file, whatever that file held before, as long
as its lines came in pairs and its last line was ended or blank.

* `Journal.append_continues`: **what is read after an entry was saved,**
  `Journal.append_lost`: and how it is lost.
-/

namespace Quadrature.Journal

open Text Dialogue

variable {file : String} {content : Option String} {w : World} {e : Entry}

/-- **What is read after an entry was saved.** If nothing but blanks stands behind the last line feed
of the functions file, the entries are those from before and the trimmed entry, which is the newest
one. If something else stands there, the integrand is added to the interval of the last entry, and
there is no newest one. -/
theorem append_continues
    (hread : w.folder.read file = content.elim (.error .notFound) fun text => .ok text.toUTF8)
    (hapart : LogsApart file w) (heven : (written (content.getD "")).length % 2 = 0)
    (he : e.Writable) (happend : (w.answer (append file e).run).1 = .ok ()) :
    let before := content.getD ""
    let w' := (w.answer (append file e).run).2
    (w.answer (list file).run).1 =
        content.elim (.error .notFound) (fun text => .ok (entries text)) ∧
      (blank (unendedLine before).toList = true →
        (w'.answer (list file).run).1 = .ok (entries before ++ [e.trimmed]) ∧
        (w'.answer (newest file).run).1 = .ok (some e.trimmed)) ∧
      (¬ blank (unendedLine before).toList = true → ∃ es integrand,
        entries before = es ++ [⟨integrand, trimmed (unendedLine before)⟩] ∧
        (w'.answer (list file).run).1 =
          .ok (es ++ [⟨integrand, trimmed (unendedLine before ++ trimmed e.integrand)⟩]) ∧
        (w'.answer (newest file).run).1 = .ok none) := by
  obtain ⟨path, hlocate⟩ := exists_path_of_append happend
  have h : Known (fun _ => True) file path content w :=
    ⟨trivial, filed_of_read hlocate hread hapart⟩
  have h' := (Known.leads_append e w h).2
  have hlist := (Known.leads_list _ h').1
  have hnewest := (Known.leads_newest _ h').1
  rw [← record_trimmed] at hlist hnewest
  refine ⟨(Known.leads_list w h).1, ?_, ?_⟩
  · intro hblank
    have hwritten := written_append_record_of_blank hblank he.savable
    rw [hlist, hnewest]
    exact ⟨congrArg Except.ok (entries_of_written heven hwritten),
      congrArg Except.ok (last?_of_written heven hwritten)⟩
  · intro hblank
    obtain ⟨es, integrand, hentries, hcontinued, hlast⟩ :=
      exists_continued heven hblank he.savable
    rw [hlist, hnewest]
    exact ⟨es, integrand, hentries, congrArg Except.ok hcontinued, congrArg Except.ok hlast⟩

/-- Blanks behind the last line feed make no difference. -/
theorem append_continues_blanks :
    let w := World.fresh [] [(["functions.txt"], "x\n[0 ; 1]\r\n \t".toUTF8)]
    let w' := (w.answer (append "functions.txt" ⟨" x sin ", "[3.14 ; 0]"⟩).run).2
    (w'.answer (list "functions.txt").run).1 =
        .ok [⟨"x", "[0 ; 1]"⟩, ⟨"x sin", "[3.14 ; 0]"⟩] ∧
      (w'.answer (newest "functions.txt").run).1 = .ok (some ⟨"x sin", "[3.14 ; 0]"⟩) := by
  intro w
  have hwritable : Entry.Writable ⟨" x sin ", "[3.14 ; 0]"⟩ :=
    ⟨by decide, by decide, by decide, by decide⟩
  have hentries : entries "x\n[0 ; 1]\r\n \t" ++ [Entry.trimmed ⟨" x sin ", "[3.14 ; 0]"⟩] =
      [⟨"x", "[0 ; 1]"⟩, ⟨"x sin", "[3.14 ; 0]"⟩] := by decide +kernel
  have hcontent : w.folder.read "functions.txt" =
      (some "x\n[0 ; 1]\r\n \t").elim (.error .notFound) fun text => .ok text.toUTF8 := by
    decide +kernel
  have h := append_continues hcontent (by simp [LogsApart, w, World.fresh]) (by decide +kernel)
    hwritable (by decide +kernel)
  obtain ⟨-, hsaved, -⟩ := h
  obtain ⟨hlist, hnewest⟩ := hsaved (by decide +kernel)
  exact ⟨hlist.trans (congrArg Except.ok hentries), hnewest⟩

/-- A last line that is not ended takes in the integrand, and the entry is lost. -/
theorem append_lost :
    let w := World.fresh [] [(["functions.txt"], "x\n[0 ; 1]".toUTF8)]
    let e : Entry := ⟨"x sin", "[1 ; 2]"⟩
    let w' := (w.answer (append "functions.txt" e).run).2
    (written "x\n[0 ; 1]").length % 2 = 0 ∧ e.Writable ∧ LogsApart "functions.txt" w ∧
      (w.answer (append "functions.txt" e).run).1 = .ok () ∧
      (w.answer (list "functions.txt").run).1 = .ok [⟨"x", "[0 ; 1]"⟩] ∧
      (w'.answer (list "functions.txt").run).1 = .ok [⟨"x", "[0 ; 1]x sin"⟩] ∧
      (w'.answer (newest "functions.txt").run).1 = .ok none := by
  refine ⟨by decide +kernel, ⟨by decide, by decide, by decide, by decide⟩, ?_, by decide +kernel,
    by decide +kernel, by decide +kernel, by decide +kernel⟩
  simp [LogsApart, World.fresh]

end Quadrature.Journal

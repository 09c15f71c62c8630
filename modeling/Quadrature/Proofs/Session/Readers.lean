import Quadrature.Proofs.Journal.Readers
import Quadrature.Proofs.Session.FunctionsFile

/-!
# Listing the entries and taking the newest one

The entries of a functions file and its newest entry are read one after the other by requests that
know nothing of each other, and agree on every file that is text.

* `Journal.answer_list`, `Journal.answer_newest`: what each of them answers.
* `Journal.readers_agree`: **how the answers belong together.**
-/

namespace Quadrature.Journal

open Text Dialogue

variable {file text : String} {w : World}

/-- The text of a file that is text. -/
theorem answer_contents (hread : w.folder.read file = .ok text.toUTF8) :
    w.answer (contents file).run = (.ok text, w) := by
  unfold contents
  rw [World.answer_readText, hread]
  exact congrArg (·, w) (decode_toUTF8 text)

theorem answer_list (hread : w.folder.read file = .ok text.toUTF8) :
    (w.answer (list file).run).1 = .ok (entries text) := by
  unfold list
  rw [ExceptT.run_bind, World.answer_bind, answer_contents hread]
  dsimp only
  split <;> rfl

theorem answer_newest (hread : w.folder.read file = .ok text.toUTF8) :
    (w.answer (newest file).run).1 = .ok (last? text) := by
  unfold newest
  rw [ExceptT.run_bind, World.answer_bind, answer_contents hread]
  dsimp only
  split <;> rfl

/-- **The two readers agree.** On a file that is text, one reads the entries of the text and the
other its newest entry. This is the last one of the entries if the lines that are not blank come in
pairs, and otherwise there is none. There are half as many entries as such lines, and part by part
they are these lines in their order, without the last one if it is left over. Blank lines, added or
taken away anywhere, change neither answer. -/
theorem readers_agree (text : String) :
    (∀ (file : String) (w : World), w.folder.read file = .ok text.toUTF8 →
      (w.answer (list file).run).1 = .ok (entries text) ∧
        (w.answer (newest file).run).1 = .ok (last? text)) ∧
    last? text = (if (solid text).length % 2 = 0 then (entries text).getLast? else none) ∧
    (entries text).length = (solid text).length / 2 ∧
    (entries text).flatMap Entry.parts =
      (if (solid text).length % 2 = 0 then solid text else (solid text).dropLast) ∧
    ∀ text' : String, Relation.EqvGen BlankAdded text text' →
      entries text' = entries text ∧ last? text' = last? text := by
  refine ⟨?_, ?_, ?_, ?_, ?_⟩
  · intro file w hread
    exact ⟨answer_list hread, answer_newest hread⟩
  · rw [last?_eq_getLast?, written_eq_solid]
  · unfold entries
    rw [length_paired, written_eq_solid]
  · unfold entries
    rw [flatMap_paired, written_eq_solid]
  · intro text' hblanks
    unfold entries last? isDangling
    rw [written_eq_of_blanks hblanks]
    exact ⟨rfl, rfl⟩

/-- A line that is left over hides the newest entry; a blank line in front of it makes no
difference. -/
theorem readers_agree_leftOver :
    let w := World.fresh [] [(["functions.txt"], "x\r\n[0 ; 1]\n\t\nx sin".toUTF8)]
    (w.answer (list "functions.txt").run).1 = .ok [⟨"x", "[0 ; 1]"⟩] ∧
      (w.answer (newest "functions.txt").run).1 = .ok none ∧
      entries "x\r\n[0 ; 1]\nx sin" = [⟨"x", "[0 ; 1]"⟩] := by
  intro w
  have hread : w.folder.read "functions.txt" = .ok "x\r\n[0 ; 1]\n\t\nx sin".toUTF8 := by
    decide +kernel
  have hentries : entries "x\r\n[0 ; 1]\n\t\nx sin" = [⟨"x", "[0 ; 1]"⟩] := by decide +kernel
  have hadded : BlankAdded "x\r\n[0 ; 1]\nx sin" "x\r\n[0 ; 1]\n\t\nx sin" :=
    @BlankAdded.before "x\r\n[0 ; 1]\n" "\t" (ended_line "x\r\n[0 ; 1]") (by decide) (by decide)
      "x sin"
  obtain ⟨hanswers, hlast, -, -, hblanks⟩ := readers_agree "x\r\n[0 ; 1]\n\t\nx sin"
  obtain ⟨hlist, hnewest⟩ := hanswers "functions.txt" w hread
  rw [hentries] at hlist
  rw [hlast, if_neg (by decide +kernel)] at hnewest
  refine ⟨hlist, hnewest, ?_⟩
  rw [(hblanks _ (.symm _ _ (.rel _ _ hadded))).1, hentries]

end Quadrature.Journal

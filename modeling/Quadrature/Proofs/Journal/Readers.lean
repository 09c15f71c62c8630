import Mathlib.Data.List.Induction
import Mathlib.Logic.Relation
import Quadrature.Proofs.Journal.Pairs

/-!
# The two readers

The entries of a text are taken from its beginning, two lines at a time, and the newest one from its
end. Both see the text through its lines that are not blank; what these are can be said without
lines, by what stands between the line feeds (`solid`), so neither the way in which a line ends nor
a blank line makes a difference.

* `solid`, `written_eq_solid`: the lines that count.
* `BlankAdded`, `written_eq_of_blanks`: **blank lines anywhere make no difference.**
* `flatMap_paired`, `length_paired`: **the entries, part by part, are the lines in their order.**
* `last?_eq_getLast?`: **the newest entry is the last one**, if the lines come in pairs.
-/

namespace Quadrature

open Text

/-- The two lines of an entry. -/
def Entry.parts (e : Entry) : List String := [e.integrand, e.interval]

namespace Journal

variable {text text' : String}

/-! ### The lines that count -/

/-- What stands between line feeds and is not blank, without the blanks around it. -/
def solid (text : String) : List String :=
  ((text.toList.splitOn '\n').filter fun piece => !blank piece).map fun piece =>
    String.ofList (trim piece)

/-- Pieces between line feeds and lines differ by carriage returns and by an empty last line. -/
theorem filter_trim_linesOfPieces (pieces : List (List Char)) :
    ((linesOfPieces pieces).map trim).filter (fun l => !l.isEmpty) =
      (pieces.map trim).filter fun l => !l.isEmpty := by
  induction pieces using linesOfPieces.induct with
  | case1 => rfl
  | case2 last hempty =>
    obtain rfl := List.isEmpty_iff.1 hempty
    rfl
  | case3 last hne =>
    rw [linesOfPieces, if_neg hne]
  | case4 piece rest hrest ih =>
    rw [linesOfPieces.eq_3 _ _ hrest, List.map_cons, List.map_cons, List.filter_cons,
      List.filter_cons, ih, trim_dropReturn]

theorem written_eq_solid (text : String) : written text = solid text := by
  have hblank : (fun l : List Char => !l.isEmpty) ∘ trim = fun piece => !blank piece := by
    funext piece
    have hiff : (trim piece).isEmpty = true ↔ blank piece = true := by
      rw [List.isEmpty_iff, trim_eq_nil_iff]
    exact congrArg not (Bool.eq_iff_iff.2 hiff)
  unfold written solid lines
  rw [filter_trim_linesOfPieces, List.filter_map, hblank, List.map_map]
  rfl

/-- A line feed separates what counts before it from what counts behind it. -/
theorem written_feed (text more : String) :
    written (text ++ "\n" ++ more) = written text ++ written more := by
  have hsplit : (text ++ "\n" ++ more).toList.splitOn '\n' =
      text.toList.splitOn '\n' ++ more.toList.splitOn '\n' := by
    rw [String.toList_append, String.toList_append, List.append_assoc]
    exact List.splitOnP_append_cons _ _ (beq_self_eq_true '\n')
  rw [written_eq_solid, written_eq_solid, written_eq_solid]
  unfold solid
  rw [hsplit, List.filter_append, List.map_append]

/-! ### Blank lines -/

/-- A blank line more: in front of any line, or behind the last one. -/
inductive BlankAdded : String → String → Prop
  | before {before line : String} (hbefore : Ended before.toList)
    (hblank : blank line.toList = true) (hline : '\n' ∉ line.toList) (after : String) :
    BlankAdded (before ++ after) (before ++ (line ++ "\n" ++ after))
  | behind {line : String} (hblank : blank line.toList = true) (hline : '\n' ∉ line.toList)
    (text : String) : BlankAdded text (text ++ "\n" ++ line)

/-- One blank line makes no difference, -/
theorem BlankAdded.written_eq (h : BlankAdded text text') : written text = written text' := by
  cases h with
  | before hbefore hblank hline after =>
    rw [written_append hbefore, written_append hbefore, written_feed, written_last hline,
      if_pos hblank, List.nil_append]
  | behind hblank hline =>
    rw [written_feed, written_last hline, if_pos hblank, List.append_nil]

/-- and neither do any number of them, added or taken away. -/
theorem written_eq_of_blanks (h : Relation.EqvGen BlankAdded text text') :
    written text = written text' := by
  induction h with
  | rel text text' hadded => exact hadded.written_eq
  | refl text => rfl
  | symm text text' _ ih => exact ih.symm
  | trans text text' text'' _ _ ih ih' => exact ih.trans ih'

/-! ### The entries -/

/-- Pairs of lines, part by part, are the lines, as far as they come in pairs. -/
theorem flatMap_paired (lines : List String) : (paired lines).flatMap Entry.parts =
    if lines.length % 2 = 0 then lines else lines.dropLast := by
  induction lines using paired.induct with
  | case1 a b rest ih =>
    rw [paired, List.flatMap_cons, ih, List.length_cons, List.length_cons, Nat.add_assoc,
      Nat.add_mod_right]
    split
    · rfl
    · rename_i hodd
      -- an odd number of lines is left, so the last line of all is the last one of these
      cases rest with
      | nil => exact absurd rfl hodd
      | cons c rest => rfl
  | case2 lines hshort =>
    cases lines with
    | nil => rfl
    | cons a rest =>
      cases rest with
      | nil => rfl
      | cons b rest => exact absurd rfl (hshort a b rest)

theorem length_flatMap_parts (es : List Entry) :
    (es.flatMap Entry.parts).length = 2 * es.length := by
  induction es with
  | nil => rfl
  | cons e es ih =>
    rw [List.flatMap_cons, List.length_append, ih, List.length_cons, Entry.parts]
    simp only [List.length_cons, List.length_nil]
    omega

/-- There are half as many pairs as lines. -/
theorem length_paired (lines : List String) : (paired lines).length = lines.length / 2 := by
  have hlength := congrArg List.length (flatMap_paired lines)
  rw [length_flatMap_parts] at hlength
  split at hlength
  · omega
  · rw [List.length_dropLast] at hlength
    omega

/-- **The newest entry is the last one** if the lines come in pairs, and otherwise there is none. -/
theorem last?_eq_getLast? (text : String) : last? text =
    if (written text).length % 2 = 0 then (entries text).getLast? else none := by
  have hflat := flatMap_paired (written text)
  have hentries : entries text = paired (written text) := rfl
  unfold last? isDangling
  generalize written text = lines at *
  by_cases heven : lines.length % 2 = 0
  · rw [if_pos heven] at hflat ⊢
    rw [heven, hentries]
    rcases List.eq_nil_or_concat' (paired lines) with hnil | ⟨es, e, hlast⟩
    · rw [hnil] at hflat ⊢
      subst hflat
      rfl
    · rw [hlast, List.flatMap_append] at hflat
      rw [hlast, List.getLast?_concat, ← hflat, List.reverse_append]
      rfl
  · have hodd : lines.length % 2 = 1 := by omega
    rw [if_neg heven, hodd]
    rfl

end Journal

end Quadrature

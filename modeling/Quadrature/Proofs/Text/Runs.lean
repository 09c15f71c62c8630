import Mathlib.Data.List.TakeDrop
import Mathlib.Data.List.TakeWhile
import Quadrature.Text.Blank

/-!
# Maximal runs

What `span` and `dropWhile` take off a text is described without them: a run of characters of one
class that the rest does not go on with.

* `Run.eq_of_append`: there is one maximal run at the beginning of a text.
* `span_eq_iff`, `dropWhile_eq_iff`: **the maximal run at the beginning of a text.**
-/

namespace Quadrature.Text

/-- Characters of one class, and a rest that does not begin with a further one. -/
structure Run {α : Type} (p : α → Bool) (w rest : List α) : Prop where
  all : ∀ c ∈ w, p c = true
  stops : ∀ c ∈ rest.head?, p c = false

variable {α : Type} {p : α → Bool} {w rest cs : List α}

namespace Run

theorem dropWhile_eq (h : Run p w rest) : (w ++ rest).dropWhile p = rest := by
  rw [List.dropWhile_append_of_pos h.all]
  cases rest with
  | nil => rfl
  | cons c rest => rw [List.dropWhile_cons, h.stops c rfl, if_neg Bool.false_ne_true]

theorem takeWhile_eq (h : Run p w rest) : (w ++ rest).takeWhile p = w := by
  rw [List.takeWhile_append_of_pos h.all]
  cases rest with
  | nil => rw [List.takeWhile_nil, List.append_nil]
  | cons c rest =>
    rw [List.takeWhile_cons, h.stops c rfl, if_neg Bool.false_ne_true, List.append_nil]

theorem of_takeWhile (p : α → Bool) (cs : List α) :
    Run p (cs.takeWhile p) (cs.dropWhile p) where
  all _ hc := List.mem_takeWhile_imp hc
  stops c hc := by
    have h := List.head?_dropWhile_not p cs
    rw [Option.mem_def.1 hc] at h
    exact h

/-- A run stops at a character of another class. -/
theorem of_cons {c : α} (hw : ∀ d ∈ w, p d = true) (hc : p c = false) : Run p w (c :: rest) where
  all := hw
  stops := by
    intro d hd
    cases hd
    exact hc

/-- A run stops with the text. -/
theorem of_nil (hw : ∀ d ∈ w, p d = true) : Run p w [] where
  all := hw
  stops := by
    intro d hd
    cases hd

/-- A text begins with one maximal run only. -/
theorem eq_of_append {w' rest' : List α} (h : Run p w rest) (h' : Run p w' rest')
    (heq : w ++ rest = w' ++ rest') : w = w' ∧ rest = rest' := by
  constructor
  · rw [← h.takeWhile_eq, heq, h'.takeWhile_eq]
  · rw [← h.dropWhile_eq, heq, h'.dropWhile_eq]

end Run

theorem span_eq_iff : cs.span p = (w, rest) ↔ cs = w ++ rest ∧ Run p w rest := by
  rw [List.span_eq_takeWhile_dropWhile]
  constructor
  · intro h
    cases h
    exact ⟨List.takeWhile_append_dropWhile.symm, .of_takeWhile p cs⟩
  · rintro ⟨rfl, h⟩
    rw [h.takeWhile_eq, h.dropWhile_eq]

theorem dropWhile_eq_iff : cs.dropWhile p = rest ↔ ∃ w, cs = w ++ rest ∧ Run p w rest := by
  constructor
  · rintro rfl
    exact ⟨cs.takeWhile p, List.takeWhile_append_dropWhile.symm, .of_takeWhile p cs⟩
  · rintro ⟨w, rfl, h⟩
    exact h.dropWhile_eq

end Quadrature.Text

import Mathlib.Tactic.Common
import Quadrature.Proofs.Settings.Fields

/-!
# Settings that can be loaded are sound

Every setting is checked when it is read, and each change touches one field; so whatever a document
asks for, in whatever order, the settings stay **sound**, and the check of the fineness that closes
the reading of a document has nothing left to refuse.

* `Change.sound_of_read`: a change that is read is sound.
* `Settings.Sound.change`: **a sound change keeps settings sound.**
* `Settings.Sound.foldlM`: so do all settings of a document, in any order.
* `Settings.ofDocument_eq`: **the closing check never fails.**
-/

namespace Quadrature

open Text

/-- A letter for the variable, room for an operand, and a fineness within its bounds. -/
structure Settings.Sound (s : Settings) : Prop where
  letter : isLetter s.compiler.symbol = true
  capacity : 1 ≤ s.compiler.capacity
  least : minRefinement ≤ s.fineness.refinement
  greatest : s.fineness.refinement ≤ maxRefinement
  step : Scalar.isPositive s.fineness.step = true

/-- What a change brings into the settings is sound. -/
def Change.Sound : Change → Prop
  | .symbol c => isLetter c = true
  | .capacity n => 1 ≤ n
  | .refinement n => minRefinement ≤ n ∧ n ≤ maxRefinement
  | .step h => Scalar.isPositive h = true
  | .rule _ | .threshold _ | .toFile _ | .logFile _ | .functionsFile _ => True

/-- A number of parts that is typed is within its bounds. -/
theorem Refinement.of_read {α : Type} {text : String} {n : Nat} (h : read (α := α) text = .ok n) :
    minRefinement ≤ n ∧ n ≤ maxRefinement := by
  unfold read at h
  split at h
  · exact (eq_of_accept h).2
  · cases h

/-- **A change that is read is sound.** -/
theorem Change.sound_of_read {t : Setting} {c : Change} (h : read t = .ok c) : c.Sound := by
  have hwrites := (of_read h).2
  cases c with
  | symbol | capacity | refinement | step => exact hwrites.2
  | rule | threshold | toFile | logFile | functionsFile => trivial

namespace Settings

variable {s : Settings}

theorem sound_default : default.Sound where
  letter := by decide
  capacity := by decide
  least := by decide
  greatest := by decide
  step := by decide +kernel

/-- **A sound change keeps settings sound.** -/
theorem Sound.change (h : s.Sound) {c : Change} (hc : c.Sound) : (s.change c).Sound := by
  cases c with
  | symbol c => exact { h with letter := hc }
  | capacity n => exact { h with capacity := hc }
  | refinement n => exact { h with least := hc.1, greatest := hc.2 }
  | step x => exact { h with step := hc }
  | rule | threshold | toFile | logFile | functionsFile => exact { h with }

theorem Sound.apply (h : s.Sound) {t : Setting} {s' : Settings} (happly : s.apply t = .ok s') :
    s'.Sound := by
  obtain ⟨c, hread, rfl⟩ := map_eq_ok happly
  exact h.change (Change.sound_of_read hread)

/-- Setting after setting, in whatever order they come. -/
theorem Sound.foldlM (h : s.Sound) {d : Document} {s' : Settings}
    (hfold : d.foldlM Settings.apply s = .ok s') : s'.Sound := by
  induction d generalizing s with
  | nil =>
    obtain rfl := Except.ok.inj hfold
    exact h
  | cons t d ih =>
    rw [List.foldlM_cons] at hfold
    cases happly : s.apply t with
    | error r =>
      rw [happly] at hfold
      cases hfold
    | ok s₁ =>
      rw [happly] at hfold
      exact ih (h.apply happly) hfold

/-- Sound settings pass the check of their fineness. -/
theorem Sound.check (h : s.Sound) : s.fineness.check = .ok () := by
  have hleast := h.least
  have hgreatest := h.greatest
  unfold Fineness.check
  rw [if_neg (by simpa using ⟨hleast, hgreatest⟩), h.step]
  rfl

/-- **The closing check never fails.** -/
theorem ofDocument_eq (d : Document) : ofDocument d = d.foldlM Settings.apply default := by
  unfold ofDocument
  cases hfold : d.foldlM Settings.apply default with
  | error r => rfl
  | ok s =>
    change (s.fineness.check >>= fun _ => pure s) = _
    rw [(sound_default.foldlM hfold).check]
    rfl

/-- **Whatever a document asks for is sound.** -/
theorem sound_of_ofDocument {d : Document} (h : ofDocument d = .ok s) : s.Sound := by
  rw [ofDocument_eq] at h
  exact sound_default.foldlM h

theorem sound_of_read {text : String} (h : read text = .ok s) : s.Sound := by
  unfold read at h
  cases hd : Document.read (α := Float) text with
  | error r =>
    rw [hd] at h
    cases h
  | ok d =>
    rw [hd] at h
    exact sound_of_ofDocument h

end Settings

end Quadrature

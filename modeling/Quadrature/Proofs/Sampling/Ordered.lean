import Mathlib.Data.Nat.Notation
import Mathlib.Tactic.Common
import Quadrature.Proofs.Integral.Samples

/-!
# Samples and sums in an ordered arithmetic

An arithmetic is **ordered** if its comparison is a total preorder on the values that are numbers,
its operations spoil a value that is not a number for good, and sums, products with something that
is not negative, and negations respect the order. Rounded arithmetics are.

* `Extremum.fold_better`: **the best of some values is at least as good as each of them**; a value
  that is not a number stays if it comes first and is passed over if it comes later.
* `Grid.extremum_asGood`: so is the result of a search, for every sample that is a number.
* `Partition.sum_le_sum`: part after part smaller terms add up to a smaller sum.
-/

namespace Quadrature

/-- Comparable with itself, as all values are that are numbers. -/
def Scalar.IsNumber {α : Type} [Scalar α] (x : α) : Prop := Scalar.le x x = true

open Scalar

/-- **An ordered arithmetic.** -/
class OrderedScalar (α : Type) [Scalar α] : Prop where
  isNumber_of_le : ∀ {x y : α}, le x y = true → IsNumber x ∧ IsNumber y
  le_trans : ∀ {x y z : α}, le x y = true → le y z = true → le x z = true
  le_total : ∀ {x y : α}, IsNumber x → IsNumber y → le x y = true ∨ le y x = true
  lt_iff : ∀ {x y : α}, lt x y = true ↔ le x y = true ∧ ¬ le y x = true
  isNumber_zero : IsNumber (ofNat 0 : α)
  isNumber_of_add : ∀ {x y : α}, IsNumber (x + y) → IsNumber x ∧ IsNumber y
  isNumber_of_mul : ∀ {x y : α}, IsNumber (x * y) → IsNumber x ∧ IsNumber y
  isNumber_of_neg : ∀ {x : α}, IsNumber (-x) → IsNumber x
  add_le_add : ∀ {x x' y y' : α}, le x x' = true → le y y' = true → IsNumber (x + y) →
    IsNumber (x' + y') → le (x + y) (x' + y') = true
  mul_le_mul : ∀ {x x' y : α}, le x x' = true → le (ofNat 0) y = true → isFinite y = true →
    IsNumber (x * y) → IsNumber (x' * y) → le (x * y) (x' * y) = true
  neg_le_neg : ∀ {x y : α}, le x y = true → le (-y) (-x) = true

variable {α : Type} [Scalar α]

namespace Extremum

/-- At least as small, or at least as large. -/
def AsGood (k : Extremum) (x y : α) : Prop :=
  match k with
  | min => le x y = true
  | max => le y x = true

variable [OrderedScalar α] {k : Extremum} {x y z : α}

omit [OrderedScalar α] in
theorem asGood_refl (h : IsNumber x) : k.AsGood x x := by
  cases k <;> exact h

theorem AsGood.trans (h : k.AsGood x y) (h' : k.AsGood y z) : k.AsGood x z := by
  cases k with
  | min => exact OrderedScalar.le_trans h h'
  | max => exact OrderedScalar.le_trans h' h

theorem AsGood.isNumber (h : k.AsGood x y) : IsNumber x ∧ IsNumber y := by
  cases k with
  | min => exact OrderedScalar.isNumber_of_le h
  | max => exact (OrderedScalar.isNumber_of_le h).symm

theorem asGood_total (hx : IsNumber x) (hy : IsNumber y) : k.AsGood x y ∨ k.AsGood y x := by
  cases k with
  | min => exact OrderedScalar.le_total hx hy
  | max => exact OrderedScalar.le_total hy hx

theorem improves_iff : k.improves x y = true ↔ k.AsGood x y ∧ ¬ k.AsGood y x := by
  cases k <;> exact OrderedScalar.lt_iff

/-- What is not a number is not replaced. -/
theorem better_of_not_isNumber (h : ¬ IsNumber x) : k.better x y = x := by
  have hnot : ¬ k.improves y x = true := by
    intro himproves
    exact h (improves_iff.1 himproves).1.isNumber.2
  unfold better
  exact if_neg hnot

/-- **The better of two** is as good as the first, and as the second if that is a number. -/
theorem better_asGood (h : IsNumber x) :
    k.AsGood (k.better x y) x ∧ (IsNumber y → k.AsGood (k.better x y) y) := by
  unfold better
  by_cases himproves : k.improves y x = true
  · rw [if_pos himproves]
    exact ⟨(improves_iff.1 himproves).1, asGood_refl⟩
  · rw [if_neg himproves]
    refine ⟨asGood_refl h, ?_⟩
    intro hy
    -- the second would have replaced the first if it were better
    rcases asGood_total (k := k) h hy with hxy | hyx
    · exact hxy
    · by_contra hxy
      exact himproves (improves_iff.2 ⟨hyx, hxy⟩)

/-- **The best of some values**, the first of which is a number. -/
theorem fold_better (h : IsNumber x) (w : ℕ → α) (n : ℕ) :
    k.AsGood (n.fold (fun i _ best => k.better best (w i)) x) x ∧
      ∀ i < n, IsNumber (w i) →
        k.AsGood (n.fold (fun i _ best => k.better best (w i)) x) (w i) := by
  induction n with
  | zero =>
    refine ⟨asGood_refl h, ?_⟩
    intro i hi
    omega
  | succ n ih =>
    obtain ⟨hfirst, hall⟩ := ih
    obtain ⟨hleft, hright⟩ := better_asGood (k := k) (y := w n) hfirst.isNumber.1
    rw [Nat.fold_succ]
    refine ⟨hleft.trans hfirst, ?_⟩
    intro i hi hw
    rcases Nat.lt_succ_iff_lt_or_eq.1 hi with hlt | rfl
    · exact hleft.trans (hall i hlt hw)
    · exact hright hw

/-- What is not a number stays. -/
theorem fold_better_of_not_isNumber (h : ¬ IsNumber x) (w : ℕ → α) (n : ℕ) :
    n.fold (fun i _ best => k.better best (w i)) x = x := by
  induction n with
  | zero => rfl
  | succ n ih => rw [Nat.fold_succ, ih, better_of_not_isNumber h]

end Extremum

section Search

variable [OrderedScalar α] {g : Grid α} {k : Extremum} {f : α → α}

/-- **The result of a search is as good as every sample that is a number**, if the first one is. -/
theorem Grid.extremum_asGood (h : IsNumber (f g.lo)) {x : α} (hx : g.Samples x)
    (hfx : IsNumber (f x)) : k.AsGood (g.extremum k f) (f x) := by
  unfold extremum
  obtain ⟨hfirst, hall⟩ := Extremum.fold_better (k := k) h (fun i => f (g.point (i + 1))) g.steps
  obtain ⟨hleft, hright⟩ := Extremum.better_asGood (k := k) (y := f g.hi) hfirst.isNumber.1
  cases hx with
  | lo => exact hleft.trans hfirst
  | point hj => exact hleft.trans (hall _ hj hfx)
  | hi => exact hright hfx

/-- A search that begins with a value that is not a number ends with it. -/
theorem Grid.extremum_of_not_isNumber (h : ¬ IsNumber (f g.lo)) : g.extremum k f = f g.lo := by
  unfold extremum
  rw [Extremum.fold_better_of_not_isNumber h, Extremum.better_of_not_isNumber h]

theorem Grid.isNumber_of_extremum (h : IsNumber (g.extremum k f)) : IsNumber (f g.lo) := by
  by_contra hlo
  rw [extremum_of_not_isNumber hlo] at h
  exact hlo h

/-- **A search that is a number is as good as every sample that is one.** -/
theorem Grid.extremum_asGood_of_isNumber (h : IsNumber (g.extremum k f)) {x : α}
    (hx : g.Samples x) (hfx : IsNumber (f x)) : k.AsGood (g.extremum k f) (f x) :=
  extremum_asGood (isNumber_of_extremum h) hx hfx

end Search

section Sums

variable [OrderedScalar α]

theorem isNumber_of_fold_succ {w : ℕ → α} {d : α} {n : ℕ}
    (h : IsNumber ((n + 1).fold (fun i _ s => s + w i * d) (ofNat 0))) :
    IsNumber (n.fold (fun i _ s => s + w i * d) (ofNat 0)) ∧ IsNumber (w n) := by
  rw [Nat.fold_succ] at h
  obtain ⟨hsum, hterm⟩ := OrderedScalar.isNumber_of_add h
  exact ⟨hsum, (OrderedScalar.isNumber_of_mul hterm).1⟩

theorem fold_le_fold {v w : ℕ → α} {d : α} (hd : le (ofNat 0) d = true) (hfin : isFinite d = true)
    {n : ℕ} (h : ∀ i < n, IsNumber (v i) → IsNumber (w i) → le (v i) (w i) = true)
    (hv : IsNumber (n.fold (fun i _ s => s + v i * d) (ofNat 0)))
    (hw : IsNumber (n.fold (fun i _ s => s + w i * d) (ofNat 0))) :
    le (n.fold (fun i _ s => s + v i * d) (ofNat 0))
      (n.fold (fun i _ s => s + w i * d) (ofNat 0)) = true := by
  induction n with
  | zero => exact hv
  | succ n ih =>
    -- sums that are numbers have been numbers all along
    obtain ⟨hv', hvn⟩ := isNumber_of_fold_succ hv
    obtain ⟨hw', hwn⟩ := isNumber_of_fold_succ hw
    have hsum := ih (fun i hi => h i (by omega)) hv' hw'
    have hterm := h n (by omega) hvn hwn
    rw [Nat.fold_succ] at hv hw ⊢
    rw [Nat.fold_succ]
    refine OrderedScalar.add_le_add hsum ?_ hv hw
    exact OrderedScalar.mul_le_mul hterm hd hfin (OrderedScalar.isNumber_of_add hv).2
      (OrderedScalar.isNumber_of_add hw).2

/-- **Smaller terms, smaller sums**, as far as both are numbers. -/
theorem Partition.sum_le_sum {p : Partition α} (hd : le (ofNat 0) p.width = true)
    (hfin : isFinite p.width = true) {v w : ℕ → α}
    (h : ∀ i < p.parts, IsNumber (v i) → IsNumber (w i) → le (v i) (w i) = true)
    (hv : IsNumber (p.sum v)) (hw : IsNumber (p.sum w)) : le (p.sum v) (p.sum w) = true :=
  fold_le_fold hd hfin h hv hw

end Sums

end Quadrature

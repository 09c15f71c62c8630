import Mathlib.Order.Bounds.Basic
import Quadrature.Proofs.Sampling.Ordered

/-!
# The earliest best sample

A search looks at its places one after the other and keeps the best value so far. In an ordered
arithmetic that value **leads** the values up to it: it is as good as every number among them, and
strictly better than every number before it.

* `Extremum.Leads.succ`, `Extremum.exists_leads`: one comparison, and all of them.
* `Grid.extremum_earliest`: **the result is the value at the least place where the best is found.**
* `Grid.extremum_eq_foldl_numbers`: values that are not numbers could as well be left out.
* `Grid.extremum_eq_lo`, `Grid.extremum_asGood_best`: a function whose best value is at a known
  place.
* `Grid.extremum_of_worsensOn`: **a monotone function is best at one of the ends.**
-/

namespace Quadrature

open Scalar

variable {α : Type}

/-- One more value of a pass. -/
theorem foldl_map_range_succ (op : α → α → α) (w : ℕ → α) (x : α) (n : ℕ) :
    ((List.range (n + 1)).map w).foldl op x = op (((List.range n).map w).foldl op x) (w n) := by
  simp [List.range_succ]

variable [Scalar α]

/-! ### The places of a search, in order -/

namespace Grid

variable {g : Grid α} {i : ℕ}

/-- **The `i`-th place of a search**: the left end, then the grid points and, last, the right end. -/
def place (g : Grid α) (i : ℕ) : α :=
  if i = 0 then g.lo else if i ≤ g.steps then g.point i else g.hi

/-- The values after the first one. -/
def later (g : Grid α) (f : α → α) : List α :=
  (List.range (g.steps + 1)).map fun i => f (g.place (i + 1))

@[simp] theorem place_zero (g : Grid α) : g.place 0 = g.lo := if_pos rfl

@[simp] theorem place_last (g : Grid α) : g.place (g.steps + 1) = g.hi := by
  simp [place]

theorem place_of_le (hi : 0 < i) (h : i ≤ g.steps) : g.place i = g.point i := by
  unfold place
  rw [if_neg (by omega), if_pos h]

theorem samples_place (h : i ≤ g.steps + 1) : g.Samples (g.place i) := by
  rcases Nat.eq_zero_or_pos i with rfl | hpos
  · rw [place_zero]; exact .lo
  rcases h.lt_or_eq with hlt | rfl
  · obtain ⟨j, rfl⟩ : ∃ j, i = j + 1 := ⟨i - 1, by omega⟩
    rw [place_of_le hpos (by omega)]
    exact .point (by omega)
  · rw [place_last]; exact .hi

/-- A search is one pass over its places. -/
theorem extremum_eq_foldl (g : Grid α) (k : Extremum) (f : α → α) :
    g.extremum k f = (g.later f).foldl k.better (f g.lo) := by
  have hpass : ∀ n ≤ g.steps, n.fold (fun i _ best => k.better best (f (g.point (i + 1)))) (f g.lo) =
      ((List.range n).map fun i => f (g.place (i + 1))).foldl k.better (f g.lo) := by
    intro n
    induction n with
    | zero => intro _; rfl
    | succ n ih =>
      intro hn
      rw [Nat.fold_succ, foldl_map_range_succ, ih (by omega), place_of_le (by omega) hn]
  unfold extremum later
  rw [foldl_map_range_succ, place_last, hpass _ le_rfl]

end Grid

/-! ### The value that leads -/

namespace Extremum

/-- A number, and no number among the values up to the `n`-th is better. -/
structure Best (k : Extremum) (w : ℕ → α) (n j : ℕ) : Prop where
  le : j ≤ n
  isNumber : IsNumber (w j)
  not_improves : ∀ i ≤ n, IsNumber (w i) → ¬ k.improves (w i) (w j) = true

/-- **The value that a pass over the values up to the `n`-th keeps**: as good as every number, and
better than every earlier one. -/
structure Leads (k : Extremum) (w : ℕ → α) (n j : ℕ) : Prop where
  le : j ≤ n
  isNumber : IsNumber (w j)
  asGood : ∀ i ≤ n, IsNumber (w i) → k.AsGood (w j) (w i)
  improves : ∀ i < j, IsNumber (w i) → k.improves (w j) (w i) = true

variable [OrderedScalar α] {k : Extremum} {w : ℕ → α} {x y z : α} {n j : ℕ}

theorem improves_trans (h : k.improves x y = true) (h' : k.AsGood y z) : k.improves x z = true := by
  rw [improves_iff] at h ⊢
  refine ⟨h.1.trans h', ?_⟩
  intro hzx
  exact h.2 (h'.trans hzx)

/-- **One more value.** It takes the lead if it is better. -/
theorem Leads.succ (h : k.Leads w n j) :
    ∃ j', k.Leads w (n + 1) j' ∧ k.better (w j) (w (n + 1)) = w j' := by
  by_cases hnew : k.improves (w (n + 1)) (w j) = true
  · have hgood := (improves_iff.1 hnew).1
    refine ⟨n + 1, ⟨le_rfl, hgood.isNumber.1, ?_, ?_⟩, if_pos hnew⟩
    · intro i hi hw
      rcases Nat.le_succ_iff.1 hi with hi | rfl
      · exact hgood.trans (h.asGood i hi hw)
      · exact asGood_refl hw
    · intro i hi hw
      exact improves_trans hnew (h.asGood i (by omega) hw)
  · refine ⟨j, ⟨by have := h.le; omega, h.isNumber, ?_, h.improves⟩, if_neg hnew⟩
    intro i hi hw
    rcases Nat.le_succ_iff.1 hi with hi | rfl
    · exact h.asGood i hi hw
    -- what is not better than the leading value is not before it
    rcases asGood_total (k := k) h.isNumber hw with hle | hle
    · exact hle
    · by_contra hnot
      exact hnew (improves_iff.2 ⟨hle, hnot⟩)

/-- **A pass that begins with a number.** -/
theorem exists_leads (h : IsNumber (w 0)) (n : ℕ) :
    ∃ j, k.Leads w n j ∧
      ((List.range n).map fun i => w (i + 1)).foldl k.better (w 0) = w j := by
  induction n with
  | zero =>
    refine ⟨0, ⟨le_rfl, h, ?_, by omega⟩, rfl⟩
    intro i hi hw
    obtain rfl : i = 0 := by omega
    exact asGood_refl hw
  | succ n ih =>
    obtain ⟨j, hj, hfold⟩ := ih
    obtain ⟨j', hj', hbetter⟩ := hj.succ
    refine ⟨j', hj', ?_⟩
    rw [foldl_map_range_succ, hfold, hbetter]

/-- **What leads is the earliest of the best.** -/
theorem Leads.isLeast (h : k.Leads w n j) : IsLeast {i | k.Best w n i} j := by
  constructor
  · refine ⟨h.le, h.isNumber, ?_⟩
    intro i hi hw himproves
    exact (improves_iff.1 himproves).2 (h.asGood i hi hw)
  · intro i hi
    by_contra hlt
    exact hi.not_improves j h.le h.isNumber (h.improves i (by omega) hi.isNumber)

/-- What is not a number does not replace anything. -/
theorem better_of_right_not_isNumber (h : ¬ IsNumber y) : k.better x y = x := by
  unfold better
  refine if_neg ?_
  intro himproves
  exact h (improves_iff.1 himproves).1.isNumber.1

/-- So it may be left out. -/
theorem foldl_filter_numbers {p : α → Bool} (hp : ∀ y, p y = true ↔ IsNumber y) (l : List α) :
    (l.filter p).foldl k.better x = l.foldl k.better x := by
  rw [List.foldl_filter]
  congr 1
  funext best y
  by_cases hy : p y = true
  · rw [if_pos hy]
  · rw [if_neg hy, better_of_right_not_isNumber (mt (hp y).2 hy)]

end Extremum

/-! ### What a search finds -/

namespace Grid

variable [OrderedScalar α] {g : Grid α} {k : Extremum} {f : α → α} {e : α}

/-- **A search finds the earliest best sample**, if its first value is a number. -/
theorem extremum_earliest (h : IsNumber (f g.lo)) :
    ∃ j, IsLeast {i | k.Best (fun i => f (g.place i)) (g.steps + 1) i} j ∧
      g.extremum k f = f (g.place j) := by
  have h0 : IsNumber (f (g.place 0)) := by rwa [place_zero]
  obtain ⟨j, hj, hfold⟩ := Extremum.exists_leads (k := k) (w := fun i => f (g.place i)) h0
    (g.steps + 1)
  refine ⟨j, hj.isLeast, ?_⟩
  rw [extremum_eq_foldl, ← hfold]
  simp only [later, place_zero]

/-- **Later values that are not numbers have no influence.** -/
theorem extremum_eq_foldl_numbers {p : α → Bool} (hp : ∀ y, p y = true ↔ IsNumber y) :
    g.extremum k f = ((g.later f).filter p).foldl k.better (f g.lo) := by
  rw [extremum_eq_foldl, Extremum.foldl_filter_numbers hp]

/-- A function that is best at the left end. -/
theorem extremum_eq_lo (h : ∀ x, g.Samples x → k.AsGood (f g.lo) (f x)) :
    g.extremum k f = f g.lo := by
  have hlo : IsNumber (f g.lo) := (h _ .lo).isNumber.1
  obtain ⟨j, hj, hresult⟩ := extremum_earliest (k := k) hlo
  -- the first place is already one of the best
  have hfirst : k.Best (fun i => f (g.place i)) (g.steps + 1) 0 := by
    refine ⟨by omega, by simpa using hlo, ?_⟩
    intro i hi _ himproves
    have hgood := h _ (samples_place hi)
    simp only [place_zero] at himproves
    exact (Extremum.improves_iff.1 himproves).2 hgood
  have hzero : j = 0 := Nat.le_zero.1 (hj.2 hfirst)
  rw [hresult, hzero, place_zero]

/-- A function that is best at any sample: the result is as good, and no better. -/
theorem extremum_asGood_best (he : g.Samples e) (h : ∀ x, g.Samples x → k.AsGood (f e) (f x)) :
    k.AsGood (g.extremum k f) (f e) ∧ k.AsGood (f e) (g.extremum k f) := by
  have hlo : IsNumber (f g.lo) := (h _ .lo).isNumber.2
  refine ⟨extremum_asGood hlo he (h e he).isNumber.1, ?_⟩
  obtain ⟨j, hj, hresult⟩ := extremum_earliest (k := k) hlo
  rw [hresult]
  exact h _ (samples_place hj.1.le)

end Grid

/-! ### Monotone functions -/

/-- Between two ends larger arguments have values that are not smaller. So every value there is a
number, being comparable with itself. -/
def AscendsOn (f : α → α) (lo hi : α) : Prop :=
  ∀ x y, le lo x = true → le x y = true → le y hi = true → le (f x) (f y) = true

/-- Between two ends larger arguments have values that are not larger. -/
def DescendsOn (f : α → α) (lo hi : α) : Prop :=
  ∀ x y, le lo x = true → le x y = true → le y hi = true → le (f y) (f x) = true

namespace Extremum

/-- The other kind. -/
def other : Extremum → Extremum
  | min => max
  | max => min

/-- **From the left end to the right one the values never get better**: they ascend if the smallest
is searched, and descend if the largest is. -/
def WorsensOn (k : Extremum) (f : α → α) (lo hi : α) : Prop :=
  ∀ x y, le lo x = true → le x y = true → le y hi = true → k.AsGood (f x) (f y)

theorem asGood_other {k : Extremum} {x y : α} : k.other.AsGood x y ↔ k.AsGood y x := by
  cases k <;> exact Iff.rfl

theorem AsGood.le_both {k : Extremum} {x y : α} (h : k.AsGood x y) (h' : k.AsGood y x) :
    le x y = true ∧ le y x = true := by
  cases k with
  | min => exact ⟨h, h'⟩
  | max => exact ⟨h', h⟩

end Extremum

theorem AscendsOn.worsensOn {f : α → α} {lo hi : α} (h : AscendsOn f lo hi) :
    Extremum.min.WorsensOn f lo hi := h

theorem DescendsOn.worsensOn {f : α → α} {lo hi : α} (h : DescendsOn f lo hi) :
    Extremum.max.WorsensOn f lo hi := h

namespace Grid

variable [OrderedScalar α] {g : Grid α} {k : Extremum} {f : α → α}

/-- **A monotone function is best at one end**, and the other way round at the other: the left end
is where the search begins, and the right end is always looked at. -/
theorem extremum_of_worsensOn (hin : ∀ x, g.Samples x → le g.lo x = true ∧ le x g.hi = true)
    (hf : k.WorsensOn f g.lo g.hi) :
    g.extremum k f = f g.lo ∧
      le (g.extremum k.other f) (f g.hi) = true ∧ le (f g.hi) (g.extremum k.other f) = true := by
  have hlo : le g.lo g.lo = true := (hin _ .lo).1
  have hhi : le g.hi g.hi = true := (hin _ .hi).2
  constructor
  · refine extremum_eq_lo ?_
    intro x hx
    obtain ⟨hle, hge⟩ := hin x hx
    exact hf g.lo x hlo hle hge
  · have hbest : ∀ x, g.Samples x → k.other.AsGood (f g.hi) (f x) := by
      intro x hx
      obtain ⟨hle, hge⟩ := hin x hx
      exact Extremum.asGood_other.2 (hf x g.hi hle hge hhi)
    obtain ⟨hgood, hgood'⟩ := extremum_asGood_best .hi hbest
    exact hgood.le_both hgood'

end Grid

end Quadrature

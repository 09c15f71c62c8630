import Quadrature.Proofs.Integral.Exact

/-!
# Searching in finer steps

In exact arithmetic the count of whole steps neither leaves a grid point out nor goes beyond the
right end, whatever the quotient is that it is taken from (`Fits.le_steps_iff`). So a search looks
at every point of the grid and at the right end, and nowhere else.

* `mesh`, `Fits.places_eq`: **the places of a search.**
* `Fits.isLeast`, `Fits.isGreatest`: what is found there.
* `mesh_subset_finer`, `bracket_widens`: **a finer step looks at all of these places again**, so what
  is found is no worse, and the Darboux sums move apart.
-/

namespace Quadrature.Exact

open Scalar

variable {g : Grid ℚ} {i : ℕ}

/-! ### The places of a search -/

/-- The grid points up to the right end, and the right end. -/
def mesh (g : Grid ℚ) : Set ℚ := {x | (∃ i : ℕ, x = g.lo + i * g.step ∧ x ≤ g.hi) ∨ x = g.hi}

/-- A grid that can be searched, with no more whole steps than are counted. -/
structure Fits (g : Grid ℚ) : Prop where
  step : 0 < g.step
  ascends : g.lo ≤ g.hi
  count : (g.hi - g.lo) / g.step < 2 ^ 64

namespace Fits

theorem steps_eq_floor (h : Fits g) : g.steps = ⌊(g.hi - g.lo) / g.step⌋₊ := by
  refine Nat.min_eq_left ?_
  have hnonneg : 0 ≤ (g.hi - g.lo) / g.step := div_nonneg (sub_nonneg.2 h.ascends) h.step.le
  have hlt : ⌊(g.hi - g.lo) / g.step⌋₊ < 2 ^ 64 := by
    rw [Nat.floor_lt hnonneg]
    exact_mod_cast h.count
  omega

/-- **The count of whole steps is exact**: a grid point counts if it is not beyond the right end. -/
theorem le_steps_iff (h : Fits g) : i ≤ g.steps ↔ g.lo + i * g.step ≤ g.hi := by
  have hnonneg : 0 ≤ (g.hi - g.lo) / g.step := div_nonneg (sub_nonneg.2 h.ascends) h.step.le
  rw [h.steps_eq_floor, Nat.le_floor_iff hnonneg, le_div_iff₀ h.step, le_sub_iff_add_le']

theorem place_eq (h : Fits g) (hi : i ≤ g.steps) : g.place i = g.lo + i * g.step := by
  rcases Nat.eq_zero_or_pos i with rfl | hpos
  · rw [Grid.place_zero, Nat.cast_zero, zero_mul, add_zero]
  · rw [Grid.place_of_le hpos hi, Grid.point, least_eq, ofNat_eq, min_eq_left (h.le_steps_iff.1 hi)]

/-- **A search looks at its mesh.** -/
theorem places_eq (h : Fits g) : {x | ∃ i ≤ g.steps + 1, g.place i = x} = mesh g := by
  ext x
  constructor
  · rintro ⟨i, hi, rfl⟩
    rcases hi.lt_or_eq with hlt | rfl
    · have hle : i ≤ g.steps := by omega
      rw [h.place_eq hle]
      exact .inl ⟨i, rfl, h.le_steps_iff.1 hle⟩
    · exact .inr g.place_last
  · rintro (⟨i, rfl, hx⟩ | rfl)
    · have hle := h.le_steps_iff.2 hx
      exact ⟨i, by omega, h.place_eq hle⟩
    · exact ⟨g.steps + 1, le_rfl, g.place_last⟩

/-- **No gap is wider than a step.** -/
theorem place_succ (h : Fits g) (hi : i ≤ g.steps) :
    g.place i ≤ g.place (i + 1) ∧ g.place (i + 1) ≤ g.place i + g.step := by
  have hpoint := h.le_steps_iff.1 hi
  rcases hi.lt_or_eq with hlt | rfl
  · have hpos := h.step
    rw [h.place_eq hi, h.place_eq hlt]
    push_cast
    constructor <;> linarith
  · -- the next grid point would be beyond the right end
    have hnext : ¬ g.lo + ((g.steps + 1 : ℕ) : ℚ) * g.step ≤ g.hi := fun hle =>
      absurd (h.le_steps_iff.2 hle) (by omega)
    push_cast at hnext
    rw [h.place_eq le_rfl, g.place_last]
    constructor <;> linarith

end Fits

/-! ### What is found -/

variable {k : Extremum} {f : ℚ → ℚ}

namespace Fits

theorem search_eq (h : Fits g) (k : Extremum) (f : ℚ → ℚ) :
    g.search k f = .ok (g.extremum k f) := by
  unfold Grid.search
  rw [unmet?_eq_none h.step h.ascends]

/-- What is found is a value on the mesh, and as good as every other one. -/
theorem extremum_best (h : Fits g) (k : Extremum) (f : ℚ → ℚ) :
    g.extremum k f ∈ f '' mesh g ∧ ∀ x ∈ mesh g, k.AsGood (g.extremum k f) (f x) := by
  constructor
  · obtain ⟨j, hj, hfound⟩ := Grid.extremum_earliest (g := g) (k := k) (isNumber (f g.lo))
    rw [← h.places_eq]
    exact ⟨g.place j, ⟨j, hj.1.le, rfl⟩, hfound.symm⟩
  · intro x hx
    rw [← h.places_eq] at hx
    obtain ⟨i, hi, rfl⟩ := hx
    exact Grid.extremum_asGood (isNumber _) (Grid.samples_place hi) (isNumber _)

theorem isLeast (h : Fits g) (f : ℚ → ℚ) : IsLeast (f '' mesh g) (g.extremum .min f) := by
  obtain ⟨hmem, hbest⟩ := h.extremum_best .min f
  refine ⟨hmem, ?_⟩
  rintro - ⟨x, hx, rfl⟩
  exact le_iff.1 (hbest x hx)

theorem isGreatest (h : Fits g) (f : ℚ → ℚ) : IsGreatest (f '' mesh g) (g.extremum .max f) := by
  obtain ⟨hmem, hbest⟩ := h.extremum_best .max f
  refine ⟨hmem, ?_⟩
  rintro - ⟨x, hx, rfl⟩
  exact le_iff.1 (hbest x hx)

end Fits

/-! ### Finer steps -/

variable {n : ℕ}

/-- The grid with each step divided into equal parts. -/
def finer (g : Grid ℚ) (n : ℕ) : Grid ℚ := ⟨g.lo, g.hi, g.step / n⟩

/-- **The finer mesh contains the coarser one.** -/
theorem mesh_subset_finer (hn : 0 < n) : mesh g ⊆ mesh (finer g n) := by
  have hne : (n : ℚ) ≠ 0 := Nat.cast_ne_zero.2 hn.ne'
  rintro x (⟨i, rfl, hx⟩ | rfl)
  · refine .inl ⟨i * n, ?_, hx⟩
    have hstep : ((i * n : ℕ) : ℚ) * (g.step / n) = i * g.step := by
      push_cast
      field_simp
    change _ = g.lo + ((i * n : ℕ) : ℚ) * (g.step / n)
    rw [hstep]
  · exact .inr rfl

/-- A grid that fits in finer steps. -/
theorem fits_finer (hn : 0 < n) (hstep : 0 < g.step) (hle : g.lo ≤ g.hi)
    (hcount : n * ((g.hi - g.lo) / g.step) < 2 ^ 64) : Fits (finer g n) where
  step := div_pos hstep (Nat.cast_pos.2 hn)
  ascends := hle
  count := by
    change (g.hi - g.lo) / (g.step / n) < 2 ^ 64
    rwa [div_div_eq_mul_div, mul_comm, mul_div_assoc]

theorem fits_of_finer (hn : 0 < n) (hstep : 0 < g.step) (hle : g.lo ≤ g.hi)
    (hcount : n * ((g.hi - g.lo) / g.step) < 2 ^ 64) : Fits g where
  step := hstep
  ascends := hle
  count := by
    have hnonneg : 0 ≤ (g.hi - g.lo) / g.step := div_nonneg (sub_nonneg.2 hle) hstep.le
    have hone : (1 : ℚ) ≤ n := Nat.one_le_cast.2 hn
    exact (le_mul_of_one_le_left hnonneg hone).trans_lt hcount

/-- **What is found in finer steps is as good.** -/
theorem extremum_finer (hn : 0 < n) (hstep : 0 < g.step) (hle : g.lo ≤ g.hi)
    (hcount : n * ((g.hi - g.lo) / g.step) < 2 ^ 64) (k : Extremum) (f : ℚ → ℚ) :
    k.AsGood ((finer g n).extremum k f) (g.extremum k f) := by
  obtain ⟨⟨x, hx, hfound⟩, -⟩ := (fits_of_finer hn hstep hle hcount).extremum_best k f
  rw [← hfound]
  exact ((fits_finer hn hstep hle hcount).extremum_best k f).2 x (mesh_subset_finer hn hx)

/-! ### Sums -/

variable {p : Partition ℚ} {step : ℚ}

theorem width_nonneg (hle : p.lo ≤ p.hi) : 0 ≤ p.width :=
  div_nonneg (sub_nonneg.2 hle) (Nat.cast_nonneg _)

/-- **The Darboux sums in finer steps.** -/
theorem darboux_finer (hn : 0 < n) (hstep : 0 < step) (hle : p.lo ≤ p.hi)
    (hcount : n * (p.width / step) < 2 ^ 64) (k : Extremum) (f : ℚ → ℚ) :
    k.AsGood (p.darboux (step / n) k f) (p.darboux step k f) := by
  have hwidth : le (ofNat 0) p.width = true := le_iff.2 (by exact_mod_cast width_nonneg hle)
  have hpart : ∀ i < p.parts,
      k.AsGood ((p.grid (step / n) i).extremum k f) ((p.grid step i).extremum k f) := by
    intro i hi
    have hparts : 1 ≤ p.parts := by omega
    refine extremum_finer (g := p.grid step i) hn hstep (point_mono hparts hle i.le_succ) ?_ k f
    change n * ((p.point (i + 1) - p.point i) / step) < 2 ^ 64
    rwa [point_succ hparts, add_sub_cancel_left]
  cases k with
  | min =>
    exact Partition.sum_le_sum hwidth rfl (fun i hi _ _ => hpart i hi) (isNumber _) (isNumber _)
  | max =>
    exact Partition.sum_le_sum hwidth rfl (fun i hi _ _ => hpart i hi) (isNumber _) (isNumber _)

/-- The Darboux sums are taken over no parts, too. -/
theorem darboux?_ok (hle : p.lo ≤ p.hi) (hstep : 0 < step) (k : Extremum) (f : ℚ → ℚ) :
    p.darboux? step k f = .ok (p.darboux step k f) := by
  rcases Nat.eq_zero_or_pos p.parts with hzero | hpos
  · have hunmet : p.unmet? step = none := by
      rw [Partition.unmet?_eq_none_iff, hzero]
      intro i hi
      exact absurd hi i.not_lt_zero
    rw [Partition.darboux?, if_pos (le_iff.2 hle), hunmet]
  · exact darboux?_eq hpos hle hstep k f

/-- **A finer search widens the bracket.** A search whose steps are counted is one pass over the grid
points up to the right end and the right end, in order and with no gap wider than a step, and finds
the least and the greatest value there. With the step divided it finds no larger least value and no
smaller greatest one. So over an ascending interval in any number of parts, the sum of the smallest
samples does not increase and the sum of the largest ones does not decrease. -/
theorem bracket_widens {g : Grid ℚ} (hle : g.lo ≤ g.hi) (hstep : 0 < g.step) :
    ((g.hi - g.lo) / g.step < 2 ^ 64 →
      {x | ∃ i ≤ g.steps + 1, g.place i = x} = mesh g ∧
      (∀ i ≤ g.steps, g.place i ≤ g.place (i + 1) ∧ g.place (i + 1) ≤ g.place i + g.step) ∧
      (∀ (k : Extremum) (f : ℚ → ℚ), g.search k f =
        .ok (((List.range (g.steps + 1)).map fun i => f (g.place (i + 1))).foldl k.better
          (f (g.place 0)))) ∧
      ∀ f : ℚ → ℚ, ∃ inf sup, g.search .min f = .ok inf ∧ g.search .max f = .ok sup ∧
        IsLeast (f '' mesh g) inf ∧ IsGreatest (f '' mesh g) sup) ∧
    (∀ n : ℕ, 0 < n → n * ((g.hi - g.lo) / g.step) < 2 ^ 64 → ∀ f : ℚ → ℚ, ∃ inf sup inf' sup',
      g.search .min f = .ok inf ∧ g.search .max f = .ok sup ∧
      (finer g n).search .min f = .ok inf' ∧ (finer g n).search .max f = .ok sup' ∧
      inf' ≤ inf ∧ sup ≤ sup') ∧
    ∀ parts n : ℕ, 0 < n → n * ((g.hi - g.lo) / parts / g.step) < 2 ^ 64 → ∀ f : ℚ → ℚ,
      ∃ lower upper lower' upper',
        (⟨g.lo, g.hi, parts⟩ : Partition ℚ).darboux? g.step .min f = .ok lower ∧
        (⟨g.lo, g.hi, parts⟩ : Partition ℚ).darboux? g.step .max f = .ok upper ∧
        (⟨g.lo, g.hi, parts⟩ : Partition ℚ).darboux? (g.step / n) .min f = .ok lower' ∧
        (⟨g.lo, g.hi, parts⟩ : Partition ℚ).darboux? (g.step / n) .max f = .ok upper' ∧
        lower' ≤ lower ∧ upper ≤ upper' := by
  refine ⟨?_, ?_, ?_⟩
  · intro hcount
    have hfits : Fits g := ⟨hstep, hle, hcount⟩
    refine ⟨hfits.places_eq, fun i hi => hfits.place_succ hi, ?_, ?_⟩
    · intro k f
      rw [hfits.search_eq, g.extremum_eq_foldl, Grid.place_zero]
      rfl
    · intro f
      exact ⟨_, _, hfits.search_eq .min f, hfits.search_eq .max f, hfits.isLeast f,
        hfits.isGreatest f⟩
  · intro n hn hcount f
    have hfits := fits_of_finer hn hstep hle hcount
    have hfiner := fits_finer hn hstep hle hcount
    have hgood := extremum_finer hn hstep hle hcount
    exact ⟨_, _, _, _, hfits.search_eq .min f, hfits.search_eq .max f, hfiner.search_eq .min f,
      hfiner.search_eq .max f, le_iff.1 (hgood .min f), le_iff.1 (hgood .max f)⟩
  · intro parts n hn hcount f
    have hfiner : 0 < g.step / n := div_pos hstep (Nat.cast_pos.2 hn)
    have hgood := darboux_finer (p := ⟨g.lo, g.hi, parts⟩) hn hstep hle hcount
    exact ⟨_, _, _, _, darboux?_ok hle hstep .min f, darboux?_ok hle hstep .max f,
      darboux?_ok hle hfiner .min f, darboux?_ok hle hfiner .max f, le_iff.1 (hgood .min f),
      le_iff.1 (hgood .max f)⟩

/-- Three steps fill the unit interval and miss its middle, where the square is smallest; half of
them look at the middle. So they do if the interval is divided in three parts. -/
theorem bracket_widens_square :
    {x | ∃ i ≤ (⟨0, 1, 1 / 3⟩ : Grid ℚ).steps + 1, (⟨0, 1, 1 / 3⟩ : Grid ℚ).place i = x} =
      mesh ⟨0, 1, 1 / 3⟩ ∧
    (∃ inf inf', (⟨0, 1, 1 / 3⟩ : Grid ℚ).search .min (fun x => (x - 1 / 2) ^ 2) = .ok inf ∧
      (finer ⟨0, 1, 1 / 3⟩ 2).search .min (fun x => (x - 1 / 2) ^ 2) = .ok inf' ∧
      inf = 1 / 36 ∧ inf' = 0 ∧ inf' ≤ inf) ∧
    ∃ lower lower',
      (⟨0, 1, 3⟩ : Partition ℚ).darboux? (1 / 3) .min (fun x => (x - 1 / 2) ^ 2) = .ok lower ∧
      (⟨0, 1, 3⟩ : Partition ℚ).darboux? (1 / 3 / 2) .min (fun x => (x - 1 / 2) ^ 2) = .ok lower' ∧
      lower = 1 / 36 ∧ lower' = 1 / 54 ∧ lower' ≤ lower := by
  obtain ⟨hgrid, hfiner, hsums⟩ :=
    bracket_widens (g := ⟨0, 1, 1 / 3⟩) (by norm_num) (by norm_num)
  obtain ⟨hplaces, -⟩ := hgrid (by norm_num)
  obtain ⟨inf, sup, inf', sup', hinf, -, hinf', -, hle, -⟩ :=
    hfiner 2 (by norm_num) (by norm_num) fun x => (x - 1 / 2) ^ 2
  obtain ⟨lower, upper, lower', upper', hlower, -, hlower', -, hsum, -⟩ :=
    hsums 3 2 (by norm_num) (by norm_num) fun x => (x - 1 / 2) ^ 2
  have hcoarse : (⟨0, 1, 1 / 3⟩ : Grid ℚ).search .min (fun x => (x - 1 / 2) ^ 2) = .ok (1 / 36) := by
    decide +kernel
  have hfine : (finer ⟨0, 1, 1 / 3⟩ 2).search .min (fun x => (x - 1 / 2) ^ 2) = .ok 0 := by
    decide +kernel
  have hthirds : (⟨0, 1, 3⟩ : Partition ℚ).darboux? (1 / 3) .min (fun x => (x - 1 / 2) ^ 2) =
      .ok (1 / 36) := by
    decide +kernel
  have hsixths : (⟨0, 1, 3⟩ : Partition ℚ).darboux? (1 / 3 / 2) .min (fun x => (x - 1 / 2) ^ 2) =
      .ok (1 / 54) := by
    decide +kernel
  exact ⟨hplaces,
    ⟨inf, inf', hinf, hinf', Except.ok.inj (hinf.symm.trans hcoarse),
      Except.ok.inj (hinf'.symm.trans hfine), hle⟩,
    lower, lower', hlower, hlower', Except.ok.inj (hlower.symm.trans hthirds),
    Except.ok.inj (hlower'.symm.trans hsixths), hsum⟩

end Quadrature.Exact

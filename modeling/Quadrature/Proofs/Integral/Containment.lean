import Quadrature.Proofs.Integral.Points
import Quadrature.Proofs.Sampling.Inside

/-!
# The samples of an integral stay inside

The points of a partition are finite and ascend from the left end to the right end, and the three
sums look at nothing outside of the ends, unless the last part begins, or is sampled, beyond the
right end (`Plan.Overshoots`). That happens to subnormal widths only; then the search of the last
part stops the program.

* `Plan.Stands.ascending`: the points.
* `Plan.Stands.unmet?_eq_none_iff`: which requests can be searched.
* `Plan.Stands.samples_iff`: the samples.
* `integrate_contained`: **what becomes of a request**.
-/

namespace Quadrature

open Double

/-! ### Points and samples -/

/-- The points of a partition are finite and run upwards from the left end to the right end. -/
structure Partition.Ascending (p : Partition Float) : Prop where
  first : (p.point 0 == p.lo) = true
  last : p.point p.parts = p.hi
  isFinite : ∀ i ≤ p.parts, (p.point i).isFinite = true
  le : ∀ i < p.parts, p.point i ≤ p.point (i + 1)

/-- The last part begins beyond the right end. -/
def Partition.Overshoots (p : Partition Float) : Prop := p.hi < p.point (p.parts - 1)

/-- The last part, or the middle of it where that is sampled, is beyond the right end. -/
def Plan.Overshoots (p : Plan Float) : Prop :=
  p.partition.Overshoots ∨
    p.fineness.rule = .midpoint ∧
      p.hi < p.partition.sample .midpoint (p.fineness.refinement - 1)

namespace Plan.Stands

variable {p : Plan Float} {a b : ℚ} {i : ℕ}

theorem parts_sub_one_lt (h : p.Stands a b) : p.fineness.refinement - 1 < p.fineness.refinement := by
  have := h.one_le
  omega

theorem overshoots_iff (h : p.Stands a b) : p.partition.Overshoots ↔
    (b : Number) < place a b p.fineness.refinement (p.fineness.refinement - 1 : ℕ) :=
  lt_iff h.hi (h.value?_point h.parts_sub_one_lt)

/-- Without an overshoot every point lies between the ends. -/
theorem exists_value_point (h : p.Stands a b) (ho : ¬ p.partition.Overshoots)
    (hi : i ≤ p.fineness.refinement) :
    ∃ q : ℚ, value? (p.partition.point i) = some (q : Number) ∧ a ≤ q ∧ q ≤ b := by
  rcases hi.lt_or_eq with hi | rfl
  · rw [h.overshoots_iff, not_lt] at ho
    have hle : place a b p.fineness.refinement i ≤ (b : Number) :=
      (place_mono h.lt.le (by exact_mod_cast (by omega : i ≤ p.fineness.refinement - 1))).trans ho
    obtain ⟨q, hq, haq, hqb⟩ := exists_coe (h.le_place (Nat.cast_nonneg i)) hle
    exact ⟨q, by rw [h.value?_point hi, hq], haq, hqb⟩
  · refine ⟨b, ?_, h.lt.le, le_rfl⟩
    rw [show p.partition.point p.fineness.refinement = p.hi from p.partition.point_parts]
    exact h.hi

theorem ascending (h : p.Stands a b) (ho : ¬ p.partition.Overshoots) : p.partition.Ascending where
  first := by
    refine (beq_iff (h.value?_point h.one_le) h.lo).2 ?_
    rw [Nat.cast_zero, h.place_zero]
  last := p.partition.point_parts
  isFinite i hi := by
    obtain ⟨q, hq, -⟩ := h.exists_value_point ho hi
    exact isFinite_iff.2 ⟨q, hq⟩
  le i hi := by
    have hi : i < p.fineness.refinement := hi
    obtain ⟨q, hq, -, hqb⟩ := h.exists_value_point ho hi.le
    rcases hi.nat_succ_le.lt_or_eq with hlt | heq
    · rw [le_iff (h.value?_point hi) (h.value?_point hlt)]
      exact place_mono h.lt.le (by push_cast; linarith)
    · have hlast : p.partition.point (i + 1) = p.hi := by
        rw [show i + 1 = p.partition.parts from heq]
        exact p.partition.point_parts
      rw [hlast, le_iff hq h.hi]
      exact_mod_cast hqb

theorem unmet?_eq_none_iff (h : p.Stands a b) :
    p.partition.unmet? p.fineness.step = none ↔ ¬ p.partition.Overshoots := by
  have hgrid : ∀ i, (p.partition.grid p.fineness.step i).unmet? = none ↔
      (p.partition.point i).isFinite = true ∧ (p.partition.point (i + 1)).isFinite = true ∧
        p.partition.point i ≤ p.partition.point (i + 1) := by
    intro i
    rw [Grid.unmet?_eq_none_iff h.step]
    exact and_congr_right fun _ => and_congr_right fun _ => decide_eq_true_iff
  rw [Partition.unmet?_eq_none_iff]
  constructor
  · -- the last part ends in the right end, so it can be searched only if it begins before
    intro hall ho
    have hle := ((hgrid _).1 (hall _ h.parts_sub_one_lt)).2.2
    have hlast : p.partition.point (p.fineness.refinement - 1 + 1) = p.hi := by
      rw [Nat.sub_add_cancel h.one_le]
      exact p.partition.point_parts
    rw [hlast, le_iff (h.value?_point h.parts_sub_one_lt) h.hi] at hle
    exact absurd (h.overshoots_iff.1 ho) (not_lt.2 hle)
  · intro ho i hi
    have hasc := h.ascending ho
    exact (hgrid i).2 ⟨hasc.isFinite i (Nat.le_of_lt hi), hasc.isFinite (i + 1) hi, hasc.le i hi⟩

/-- A part is a grid that can be searched. -/
theorem exists_grid (h : p.Stands a b) (ho : ¬ p.partition.Overshoots)
    (hi : i < p.fineness.refinement) :
    ∃ q r σ : ℚ, (p.partition.grid p.fineness.step i).Stands q r σ := by
  obtain ⟨q, hq, -⟩ := h.exists_value_point ho hi.le
  obtain ⟨r, hr, -⟩ := h.exists_value_point ho (i := i + 1) hi
  obtain ⟨σ, hσ, hstep⟩ := isPositive_iff.1 h.step
  refine ⟨q, r, σ, hq, hr, hstep, ?_, hσ⟩
  have hle := (h.ascending ho).le i hi
  rw [le_iff hq hr] at hle
  exact_mod_cast hle

theorem between {x : Float} {q : ℚ} (h : p.Stands a b) (hx : value? x = some (q : Number))
    (haq : a ≤ q) (hqb : q ≤ b) : p.lo ≤ x ∧ x ≤ p.hi :=
  ⟨(le_iff h.lo hx).2 (by exact_mod_cast haq), (le_iff hx h.hi).2 (by exact_mod_cast hqb)⟩

theorem point_between (h : p.Stands a b) (ho : ¬ p.partition.Overshoots)
    (hi : i ≤ p.fineness.refinement) :
    p.lo ≤ p.partition.point i ∧ p.partition.point i ≤ p.hi := by
  obtain ⟨q, hq, haq, hqb⟩ := h.exists_value_point ho hi
  exact h.between hq haq hqb

theorem le_of_samples (h : p.Stands a b) (ho : ¬ p.Overshoots) {x : Float} (hx : p.Samples x) :
    p.lo ≤ x ∧ x ≤ p.hi := by
  have hp : ¬ p.partition.Overshoots := by
    intro hp
    exact ho (.inl hp)
  cases hx with
  | @rule i hi =>
    cases hr : p.fineness.rule with
    | left => exact h.point_between hp hi.le
    | right => exact h.point_between hp hi
    | midpoint =>
      -- no middle is beyond that of the last part
      have hlast : ¬ p.hi < p.partition.sample .midpoint (p.fineness.refinement - 1) := by
        intro hlt
        exact ho (.inr ⟨hr, hlt⟩)
      rw [lt_iff h.hi (h.value?_midpoint h.parts_sub_one_lt), not_lt] at hlast
      have hi' : (i : ℚ) ≤ (p.fineness.refinement - 1 : ℕ) := by
        exact_mod_cast (by omega : i ≤ p.fineness.refinement - 1)
      have hi0 : (0 : ℚ) ≤ i + 1 / 2 := by positivity
      obtain ⟨q, hq, haq, hqb⟩ := exists_coe (h.le_place hi0)
        ((place_mono h.lt.le (by linarith)).trans hlast)
      exact h.between (by rw [h.value?_midpoint hi, hq]) haq hqb
  | @grid i _ hi hx =>
    -- the search of a part stays between two points
    obtain ⟨q, r, σ, hgrid⟩ := h.exists_grid hp hi
    obtain ⟨hle, hge⟩ := hgrid.between hx
    exact ⟨float_le_trans (h.point_between hp hi.le).1 hle,
      float_le_trans hge (h.point_between hp hi).2⟩

/-- **The samples lie inside unless the last part begins, or is sampled, beyond the right end.** -/
theorem samples_iff (h : p.Stands a b) :
    (∀ x, p.Samples x → p.lo ≤ x ∧ x ≤ p.hi) ↔ ¬ p.Overshoots := by
  constructor
  · intro hall
    have hlast : ∀ {x}, p.Samples x → ¬ p.hi < x := by
      intro x hx
      exact float_not_lt_of_le (hall _ hx).2
    -- what overshoots is itself a sample
    rintro (hp | ⟨hr, hm⟩)
    · exact hlast (.grid h.parts_sub_one_lt .lo) hp
    · exact hlast (hr ▸ .rule h.parts_sub_one_lt) hm
  · intro ho x hx
    exact h.le_of_samples ho hx

theorem not_overshoots (h : p.Stands a b)
    (hbig : (p.fineness.refinement : ℚ) ^ 2 * 2 ^ (-1074 : ℤ) ≤ near (b - a)) :
    ¬ p.Overshoots := by
  have hle := h.place_le hbig
  have hcast : ((p.fineness.refinement - 1 : ℕ) : ℚ) = p.fineness.refinement - 1 := by
    rw [Nat.cast_sub h.one_le, Nat.cast_one]
  rintro (hp | ⟨-, hm⟩)
  · rw [h.overshoots_iff, hcast] at hp
    exact absurd hp (not_lt.2 ((place_mono h.lt.le (by linarith)).trans hle))
  · rw [lt_iff h.hi (h.value?_midpoint h.parts_sub_one_lt), hcast] at hm
    exact absurd hm (not_lt.2 ((place_mono h.lt.le (by linarith)).trans hle))

end Plan.Stands

/-! ### Requests -/

theorem integrate_of_plan {α : Type} [Scalar α] {s : Fineness α} {start stop : α} {p : Plan α}
    (h : Plan.ofRequest s start stop = .ok p) (f : α → α) :
    integrate s f start stop = (Failure.ofUnmet (p.sums f)).map p.orient := by
  unfold integrate
  rw [h]
  change (Failure.ofUnmet (p.sums f) >>= fun sums => pure (p.orient sums)) = _
  cases p.sums f <;> rfl

/-- **What becomes of a request.** It is rejected, or its plan is summed unless the last part begins
beyond the right end, and the samples lie inside unless the last part begins or is sampled there.
Neither happens when the parts are at least as many least doubles wide as there are parts, that
is for every width of `2 ^ -1022` or more. -/
theorem integrate_contained (s : Fineness Float) (f : Float → Float) (start stop : Float) :
    match Plan.ofRequest s start stop with
    | .error r => integrate s f start stop = .error (.rejected r)
    | .ok p =>
      ((∃ u, integrate s f start stop = .error (.unmet u)) ↔ p.partition.Overshoots) ∧
      (¬ p.partition.Overshoots →
        (∃ v, integrate s f start stop = .ok v) ∧ p.partition.Ascending) ∧
      (∀ f', (∀ x, p.Samples x → f x = f' x) →
        integrate s f start stop = integrate s f' start stop) ∧
      ((∀ x, p.Samples x → p.lo ≤ x ∧ x ≤ p.hi) ↔ ¬ p.Overshoots) ∧
      ∀ w : ℚ, value? (p.hi - p.lo) = some (w : Number) →
        (s.refinement : ℚ) ^ 2 * 2 ^ (-1074 : ℤ) ≤ w → ¬ p.Overshoots := by
  cases hp : Plan.ofRequest s start stop with
  | error r =>
    dsimp only
    unfold integrate
    rw [hp]
    rfl
  | ok p =>
    dsimp only
    obtain ⟨a, b, h, hs⟩ := Plan.exists_stands hp
    have hle : Scalar.le p.lo p.hi = true :=
      decide_eq_true ((le_iff h.lo h.hi).2 (by exact_mod_cast h.lt.le))
    have hout := p.sums_outcome hle f
    have hunmet := h.unmet?_eq_none_iff
    rw [integrate_of_plan hp]
    refine ⟨?_, ?_, ?_, h.samples_iff, ?_⟩
    · -- the sums are missing exactly when some part cannot be searched
      cases hu : p.partition.unmet? p.fineness.step with
      | none =>
        rw [hu] at hout
        obtain ⟨v, hv⟩ := hout
        rw [hv]
        refine iff_of_false ?_ (hunmet.1 hu)
        rintro ⟨u, hu⟩
        cases hu
      | some u =>
        rw [hu] at hout
        dsimp only at hout
        rw [hout]
        refine iff_of_true ⟨u, rfl⟩ ?_
        by_contra ho
        rw [hunmet.2 ho] at hu
        cases hu
    · intro ho
      refine ⟨?_, h.ascending ho⟩
      rw [hunmet.2 ho] at hout
      obtain ⟨v, hv⟩ := hout
      exact ⟨p.orient v, by rw [hv]; rfl⟩
    · intro f' hf
      rw [integrate_of_plan hp, Plan.sums_congr hf]
    · intro w hw hbig
      rw [value?_sub h.hi h.lo, rounded, inRange_of_abs_lt h.width] at hw
      obtain rfl : near (b - a) = w := by exact_mod_cast Option.some.inj hw
      rw [← hs] at hbig
      exact h.not_overshoots hbig

/-- The square over four parts of the unit interval, sampled in the middle. -/
theorem integrate_unitInterval :
    (∃ v, integrate ⟨4, 0.25, .midpoint⟩ (fun x : Float => x * x) 0 1 = .ok v) ∧
      ∀ x, (⟨0, 1, ⟨4, 0.25, .midpoint⟩, false⟩ : Plan Float).Samples x → 0 ≤ x ∧ x ≤ 1 := by
  have hp : Plan.ofRequest (⟨4, 0.25, .midpoint⟩ : Fineness Float) 0 1 =
      .ok ⟨0, 1, ⟨4, 0.25, .midpoint⟩, false⟩ := by rfl
  have h := integrate_contained ⟨4, 0.25, .midpoint⟩ (fun x => x * x) 0 1
  rw [hp] at h
  obtain ⟨-, hok, -, hin, hwide⟩ := h
  have hw : value? ((1 : Float) - 0) = some ((1 : ℚ) : Number) := by
    have hone : (1 : Float) - 0 = nearest 1 := by decide +kernel
    rw [hone, value?_nearest_of_le (by norm_num), Nat.cast_one]
  have ho := hwide 1 hw <| by
    calc ((4 : ℕ) : ℚ) ^ 2 * 2 ^ (-1074 : ℤ) ≤ 16 * 2 ^ (-4 : ℤ) :=
          mul_le_mul (by norm_num) (two_zpow_le (by norm_num)) (two_zpow_pos _).le (by norm_num)
      _ = 1 := by norm_num
  exact ⟨(hok fun h => ho (.inl h)).1, hin.2 ho⟩

/-- Three least doubles in five parts: the width of a part is rounded up to a whole one, and the
last part begins at the fourth. -/
theorem integrate_threeLeast :
    (Plan.ofRequest (⟨5, 1, .left⟩ : Fineness Float) 0 (.ofBits 3)).toBool = true ∧
      integrate (⟨5, 1, .left⟩ : Fineness Float) (fun _ => 0) 0 (.ofBits 3) =
        .error (.unmet (.searchInterval (.ofBits 4) (.ofBits 3))) := by
  decide +kernel

end Quadrature

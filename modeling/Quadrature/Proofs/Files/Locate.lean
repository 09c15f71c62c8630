import Mathlib.Tactic.Common
import Quadrature.Files

/-!
# Which file a name stands for

What a name stands for depends on the directories alone. A file that is put where a name stands
brings no directory with it, since the one that it lies in is there; so no name changes its meaning
when files are written.

* `locate_eq_ok_iff`: what a name has to be.
* `hasDirectory_put`: **a file that is put where a name stands brings no directory with it.**
* `locate_put`: so every name stands for the same file as before.
-/

namespace Quadrature.Folder

variable {d d' : Folder} {name : String} {p q here : Path}

/-! ### Directories -/

theorem hasDirectory_iff : d.hasDirectory p = true ↔
    (∀ part ∈ p, part = "..") ∨ p = root ∨ (∃ top ∈ systemDirectories, p = root ++ [top]) ∨
      ∃ f ∈ d, p <+: f.1 ∧ p.length < f.1.length := by
  unfold hasDirectory
  simp only [Bool.or_eq_true, List.all_eq_true, decide_eq_true_eq, List.any_eq_true,
    Bool.and_eq_true, List.isPrefixOf_iff_prefix, or_assoc]

/-- The directories above a directory. -/
theorem hasDirectory_of_prefix (h : d.hasDirectory q = true) (hpq : p <+: q) :
    d.hasDirectory p = true := by
  have hroot : p <+: root → (∀ part ∈ p, part = "..") ∨ p = root := by
    intro hp
    have hconcat : p <+: [] ++ ["/"] := hp
    rcases List.prefix_concat_iff.1 hconcat with hp | hp
    · exact .inr hp
    · rw [List.prefix_nil.1 hp]
      exact .inl fun part hpart => absurd hpart List.not_mem_nil
  rw [hasDirectory_iff] at h ⊢
  rcases h with h | rfl | ⟨top, htop, rfl⟩ | ⟨f, hf, hqf, hlt⟩
  · exact .inl fun part hpart => h part (hpq.subset hpart)
  · exact (hroot hpq).imp_right .inl
  · rcases List.prefix_concat_iff.1 hpq with rfl | hp
    · exact .inr (.inr (.inl ⟨top, htop, rfl⟩))
    · exact (hroot hp).imp_right .inl
  · exact .inr (.inr (.inr ⟨f, hf, hpq.trans hqf, Nat.lt_of_le_of_lt hpq.length_le hlt⟩))

theorem walk_hasDirectory {parts : List String} (hhere : d.hasDirectory here = true)
    (h : d.walk here parts = .ok p) : d.hasDirectory p = true := by
  induction parts generalizing here with
  | nil =>
    cases h
    exact hhere
  | cons part rest ih =>
    unfold walk at h
    split at h
    · cases h
    dsimp only at h
    split at h
    · rename_i hnext
      exact ih hnext h
    · split at h <;> cases h

theorem hasDirectory_start (d : Folder) (name : String) : d.hasDirectory (start name) = true := by
  unfold start
  split
  · simp [hasDirectory]
  · rfl

theorem walk_congr {parts : List String} (hdir : ∀ p, d'.hasDirectory p = d.hasDirectory p)
    (h : d.walk here parts = .ok p) : d'.walk here parts = .ok p := by
  induction parts generalizing here with
  | nil => exact h
  | cons part rest ih =>
    unfold walk at h ⊢
    split at h
    · cases h
    · rename_i hshort
      rw [if_neg hshort]
      dsimp only at h ⊢
      rw [hdir]
      split at h
      · rename_i hnext
        rw [if_pos hnext]
        exact ih h
      · split at h <;> cases h

/-! ### Names -/

/-- The last part of a name. -/
def lastPart (name : String) : String := (parts name).getLast?.getD "."

/-- A name stands for a file in a directory. -/
structure Located (d : Folder) (name : String) (creating : Bool) (here : Path) : Prop where
  noNul : ¬ name.toList.contains '\x00' = true
  notEmpty : ¬ name.isEmpty = true
  short : ¬ maxNameLength < name.utf8ByteSize
  walk : d.walk (start name) (parts name).dropLast = .ok here
  notDots : ¬ (decide (lastPart name = ".") || decide (lastPart name = "..")) = true
  noSlash : ¬ (creating && name.endsWith "/") = true
  shortPart : ¬ maxPartLength < (lastPart name).utf8ByteSize
  notDirectory : ¬ d.hasDirectory (here ++ [lastPart name]) = true
  notFile : ¬ (name.endsWith "/" && (d.get? (here ++ [lastPart name])).isSome) = true

theorem ite_error_eq_ok_iff {ε α : Type} {c : Prop} [Decidable c] {e : ε} {x : Except ε α} {a : α} :
    (if c then .error e else x) = .ok a ↔ ¬ c ∧ x = .ok a := by
  by_cases h : c
  · simp [h]
  · simp [h]

theorem locate_eq_ok_iff {creating : Bool} : d.locate name creating = .ok p ↔
    ∃ here, d.Located name creating here ∧ p = here ++ [lastPart name] := by
  unfold locate
  dsimp only [bind, Except.bind, pure, Except.pure, throw, throwThe, MonadExceptOf.throw]
  rw [ite_error_eq_ok_iff, ite_error_eq_ok_iff, ite_error_eq_ok_iff]
  constructor
  · rintro ⟨hnul, hempty, hshort, h⟩
    cases hwalk : d.walk (start name) (parts name).dropLast with
    | error e =>
      rw [hwalk] at h
      cases h
    | ok here =>
      rw [hwalk] at h
      dsimp only at h
      rw [ite_error_eq_ok_iff, ite_error_eq_ok_iff, ite_error_eq_ok_iff, ite_error_eq_ok_iff,
        ite_error_eq_ok_iff] at h
      obtain ⟨hdots, hslash, hpart, hdir, hfile, h⟩ := h
      exact ⟨here, ⟨hnul, hempty, hshort, hwalk, hdots, hslash, hpart, hdir, hfile⟩,
        (Except.ok.inj h).symm⟩
  · rintro ⟨here, h, rfl⟩
    refine ⟨h.noNul, h.notEmpty, h.short, ?_⟩
    rw [h.walk]
    dsimp only
    rw [ite_error_eq_ok_iff, ite_error_eq_ok_iff, ite_error_eq_ok_iff, ite_error_eq_ok_iff,
      ite_error_eq_ok_iff]
    exact ⟨h.notDots, h.noSlash, h.shortPart, h.notDirectory, h.notFile, rfl⟩

/-- A file that can be created is the one that is read under its name. -/
theorem locate_of_creating (h : d.locate name true = .ok p) : d.locate name false = .ok p := by
  obtain ⟨here, hl, rfl⟩ := locate_eq_ok_iff.1 h
  exact locate_eq_ok_iff.2 ⟨here, { hl with noSlash := by simp }, rfl⟩

theorem locate_congr (hdir : ∀ p, d'.hasDirectory p = d.hasDirectory p)
    (h : d.locate name true = .ok p) : d'.locate name true = .ok p := by
  obtain ⟨here, hl, rfl⟩ := locate_eq_ok_iff.1 h
  refine locate_eq_ok_iff.2 ⟨here, { hl with walk := ?_, notDirectory := ?_, notFile := ?_ }, rfl⟩
  · exact walk_congr hdir hl.walk
  · rw [hdir]
    exact hl.notDirectory
  · have hslash := hl.noSlash
    rw [Bool.true_and, Bool.not_eq_true] at hslash
    rw [hslash]
    exact Bool.false_ne_true

/-- **A file that is put where a name stands brings no directory with it.** -/
theorem hasDirectory_put (h : d.locate name true = .ok p) (content : ByteArray) (q : Path) :
    (d.put p content).hasDirectory q = d.hasDirectory q := by
  obtain ⟨here, hl, rfl⟩ := locate_eq_ok_iff.1 h
  have hhere := walk_hasDirectory (d.hasDirectory_start name) hl.walk
  rw [Bool.eq_iff_iff]
  constructor
  · intro hq
    rw [hasDirectory_iff] at hq
    rcases hq with hq | hq | hq | ⟨f, hf, hqf, hlt⟩
    · exact hasDirectory_iff.2 (.inl hq)
    · exact hasDirectory_iff.2 (.inr (.inl hq))
    · exact hasDirectory_iff.2 (.inr (.inr (.inl hq)))
    · rcases List.mem_append.1 hf with hf | hf
      · exact hasDirectory_iff.2 (.inr (.inr (.inr ⟨f, (List.mem_filter.1 hf).1, hqf, hlt⟩)))
      · -- a directory above the new file is above the directory that it lies in
        obtain rfl := List.mem_singleton.1 hf
        rcases List.prefix_concat_iff.1 hqf with rfl | hqf
        · exact absurd hlt (Nat.lt_irrefl _)
        · exact hasDirectory_of_prefix hhere hqf
  · intro hq
    rw [hasDirectory_iff] at hq ⊢
    refine hq.imp_right (Or.imp_right (Or.imp_right ?_))
    rintro ⟨f, hf, hqf, hlt⟩
    by_cases hfp : f.1 = here ++ [lastPart name]
    · exact ⟨_, List.mem_append_right _ List.mem_cons_self, hfp ▸ hqf, hfp ▸ hlt⟩
    · exact ⟨f, List.mem_append_left _ (List.mem_filter.2 ⟨hf, by simpa using hfp⟩), hqf, hlt⟩

/-- **Every name stands for the same file** as before. -/
theorem locate_put (h : d.locate name true = .ok p) (content : ByteArray) (name' : String)
    (q : Path) : (d.put p content).locate name' true = .ok q ↔ d.locate name' true = .ok q := by
  have hdir := hasDirectory_put h content
  constructor
  · exact locate_congr fun p => (hdir p).symm
  · exact locate_congr hdir

end Quadrature.Folder

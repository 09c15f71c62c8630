import Quadrature.Proofs.Decimal.ReadBack
import Quadrature.Proofs.Rpn.Postfix
import Quadrature.Proofs.Settings.Order

/-!
# The stack capacities that documents set

A document may set any capacity that is a machine word, except zero. The room for it is set aside
when something is compiled, and that only goes as far as `2 ^ 63 - 1` bytes do; so with the greatest
capacities that are accepted nothing can be compiled.

* `Setting.Writable`, `Document.read_single`: **a setting that is written down is read.**
* `Settings.read_capacitySetting`: every capacity of a machine word but zero is accepted.
* `Settings.exists_document_of_read`: what an accepted document says of the settings.
* `Settings.exists_read_iff`: the capacities of accepted documents.
* `Settings.usable_of_read`: **what an accepted document means for compiling.**
-/

namespace Quadrature

open Text

/-! ### Documents with one setting -/

/-- A setting that can be written: its title and its key are identifiers, its value is a word. -/
structure Setting.Writable (t : Setting) : Prop where
  title : Document.IsIdentifier t.title.toList []
  key : Document.IsIdentifier t.key.toList []
  value : Document.IsValue t.value.toList []

/-- A setting in one line. -/
def Setting.line (t : Setting) : String := t.title ++ " " ++ t.key ++ ": " ++ t.value

namespace Document

variable {w rest : List Char} {c : Char} {t : Setting}

theorem toList_line (t : Setting) : t.line.toList =
    t.title.toList ++ ' ' :: (t.key.toList ++ ':' :: ' ' :: t.value.toList) := by
  simp [Setting.line]

/-- A word ends where something else follows. -/
theorem IsIdentifier.before (h : IsIdentifier w []) (hc : isInner c = false) (rest : List Char) :
    IsIdentifier w (c :: rest) :=
  ⟨h.initial, .of_cons h.run.all hc⟩

/-- The marks of comments do not begin an identifier. -/
theorem isComment_of_isInitial (hc : isInitial c = true) (h : IsTrimmed (c :: rest)) :
    isComment (c :: rest) = false := by
  have hne : ∀ mark : Char, isInitial mark = false → c ≠ mark := by
    rintro mark hmark rfl
    rw [hmark] at hc
    cases hc
  unfold isComment
  rw [h.trim_eq]
  split
  · rename_i heq
    exact absurd (List.cons.inj heq).1 (hne '/' (by decide))
  · rename_i heq
    exact absurd (List.cons.inj heq).1 (hne '#' (by decide))
  · rename_i heq
    exact absurd (List.cons.inj heq).1 (hne '%' (by decide))
  · rfl

/-- A line that is no comment stays as it is. -/
theorem withoutComments_line (hfeed : '\n' ∉ w) (hne : w ≠ []) (hcomment : isComment w = false) :
    withoutComments w = w := by
  unfold withoutComments
  rw [lines_last hfeed hne, List.filter_cons_of_pos (by rw [hcomment]; rfl), List.filter_nil,
    List.intercalate_singleton]

theorem IsValue.not_blank (h : IsValue w rest) : ∀ d ∈ w, isBlank d = false := by
  intro d hd
  exact Bool.not_eq_true' _ ▸ h.run.all d hd

theorem exists_line_cons (h : t.Writable) :
    ∃ c cs, t.line.toList = c :: cs ∧ isInitial c = true := by
  rw [toList_line]
  exact (h.title.before (by decide) _).exists_cons

theorem isTrimmed_line (h : t.Writable) : IsTrimmed t.line.toList := by
  constructor
  · intro d hd
    obtain ⟨c, cs, hline, hc⟩ := exists_line_cons h
    rw [hline] at hd
    cases hd
    exact isBlank_of_isInitial hc
  · intro d hd
    have hline : t.line.toList =
        (t.title.toList ++ ' ' :: (t.key.toList ++ [':', ' '])) ++ t.value.toList := by
      simp [toList_line]
    rw [hline, List.getLast?_append_of_ne_nil _ h.value.ne_nil] at hd
    exact h.value.not_blank d (List.mem_of_getLast? hd)

theorem feed_notMem_line (h : t.Writable) : '\n' ∉ t.line.toList := by
  have htitle : '\n' ∉ t.title.toList := fun hfeed => absurd (h.title.run.all _ hfeed) (by decide)
  have hkey : '\n' ∉ t.key.toList := fun hfeed => absurd (h.key.run.all _ hfeed) (by decide)
  have hvalue : '\n' ∉ t.value.toList := fun hfeed =>
    absurd (h.value.not_blank _ hfeed) (by decide)
  rw [toList_line]
  simp [htitle, hkey, hvalue]

theorem withoutComments_setting (h : t.Writable) :
    withoutComments t.line.toList = t.line.toList := by
  obtain ⟨c, cs, hline, hc⟩ := exists_line_cons h
  have htrimmed := isTrimmed_line h
  refine withoutComments_line (feed_notMem_line h) ?_ ?_
  · rw [hline]
    exact List.cons_ne_nil _ _
  · rw [hline] at htrimmed ⊢
    exact isComment_of_isInitial hc htrimmed

/-- **A setting that is written down is read.** -/
theorem read_single {α : Type} (h : t.Writable) : read (α := α) t.line = .ok [t] := by
  have hpair : PairAt (' ' :: (t.key.toList ++ ':' :: ' ' :: t.value.toList))
      (t.key.toList, t.value.toList) [] := by
    have hspace : ∀ c ∈ [' '], isSpace c = true := by simp [isSpace]
    have hpair := PairAt.intro (fun c hc => isGap_of_isSpace (hspace c hc))
      (h.key.before (by decide) _) (List.forall_mem_nil _) hspace h.value
    simpa using hpair
  have hsection : SectionAt t.line.toList [t] [] := by
    have hsection := SectionAt.intro (List.forall_mem_nil _) (h.title.before (by decide) _)
      (List.cons_ne_nil _ _) (.cons hpair (.nil []))
    rw [toList_line]
    simpa [settingOf] using hsection
  refine read_eq_ok_iff.2 (.inr ⟨[[t]], [], List.cons_ne_nil _ _, ?_, rfl, rfl⟩)
  rw [withoutComments_setting h]
  exact .cons hsection (.nil [])

end Document

namespace Settings

variable {text : String} {s : Settings} {n : ℕ}

/-! ### Capacities -/

/-- The setting of a capacity. -/
def capacitySetting (n : ℕ) : Setting :=
  ⟨"parser", "stack_capacity", String.ofList (Nat.toDigits 10 n)⟩

theorem writable_capacitySetting (n : ℕ) : (capacitySetting n).Writable where
  title := by
    change Document.IsIdentifier "parser".toList []
    exact ⟨⟨'p', by decide, by decide⟩, .of_nil (List.all_eq_true.1 (by decide))⟩
  key := by
    change Document.IsIdentifier "stack_capacity".toList []
    exact ⟨⟨'s', by decide, by decide⟩, .of_nil (List.all_eq_true.1 (by decide))⟩
  value := by
    have hdigits : (capacitySetting n).value.toList = Nat.toDigits 10 n := String.toList_ofList
    rw [hdigits]
    refine ⟨List.length_pos_iff.1 Nat.length_toDigits_pos, .of_nil ?_⟩
    intro c hc
    rw [Decimal.not_blank_of_isDigit (Decimal.digits_toDigits n c hc)]
    rfl

/-- **Every capacity of a machine word but zero is accepted.** -/
theorem read_capacitySetting (hpos : 1 ≤ n) (hle : n ≤ Change.greatestCapacity) :
    read (capacitySetting n).line = .ok (default.change (.capacity n)) := by
  have hread : Change.read (capacitySetting n) = .ok (.capacity n) := by
    have hnatural : Decimal.readNatural? (capacitySetting n).value Change.greatestCapacity =
        some n := Decimal.readNatural?_toDigits hle
    unfold Change.read
    dsimp only [capacitySetting] at hnatural ⊢
    rw [hnatural]
    cases n with
    | zero => cases hpos
    | succ n => rfl
  unfold read
  rw [Document.read_single (writable_capacitySetting n)]
  change ofDocument [capacitySetting n] = _
  rw [ofDocument_singleton, hread]
  rfl

/-- Accepted settings are the default ones, updated with a document. -/
theorem exists_document_of_read (h : read text = .ok s) :
    ∃ d, Document.read (α := Float) text = .ok d ∧ default.Updated d s := by
  unfold read at h
  obtain ⟨d, hd, hs⟩ := Document.bind_eq_ok h
  exact ⟨d, hd, updated_of_ofDocument (Document.distinct_of_read hd) hs⟩

theorem capacity_le_of_read (h : read text = .ok s) :
    s.compiler.capacity ≤ Change.greatestCapacity := by
  obtain ⟨d, -, hupdated⟩ := exists_document_of_read h
  have hcapacity := hupdated .capacity
  cases hvalue : d.value? Field.capacity.title Field.capacity.key with
  | some v =>
    rw [hvalue] at hcapacity
    exact Decimal.le_of_readNatural? hcapacity.1
  | none =>
    rw [hvalue] at hcapacity
    have hdefault : s.compiler.capacity = Compiler.defaultCapacity := hcapacity
    rw [hdefault]
    decide

/-- The greatest capacity with room for it, in bytes. -/
theorem le_maxCapacity_iff : n ≤ Operands.maxCapacity ↔ 24 * n ≤ 2 ^ 63 - 1 := by
  unfold Operands.maxCapacity
  omega

/-- **The capacities of accepted documents** are the machine words but zero. -/
theorem exists_read_iff :
    (∃ text s, read text = .ok s ∧ s.compiler.capacity = n) ↔ 1 ≤ n ∧ n < 2 ^ 64 := by
  constructor
  · rintro ⟨text, s, h, rfl⟩
    exact ⟨(sound_of_read h).capacity, Nat.lt_succ_of_le (capacity_le_of_read h)⟩
  · rintro ⟨hpos, hlt⟩
    exact ⟨_, _, read_capacitySetting hpos (Nat.le_of_lt_succ hlt), rfl⟩

/-- **What an accepted document means for compiling.** The capacity is the number written behind its
key, or the default one, and a machine word but not zero. If the room for that many operands, at 24
bytes each, is no more than `2 ^ 63 - 1` bytes, every token list compiles or is rejected; otherwise
every token list stops the program. -/
theorem usable_of_read (h : read text = .ok s) :
    (∃ d, Document.read (α := Float) text = .ok d ∧
      match d.value? "parser" "stack_capacity" with
      | some v => Decimal.readNatural? v Change.greatestCapacity = some s.compiler.capacity
      | none => s.compiler.capacity = Compiler.defaultCapacity) ∧
    (1 ≤ s.compiler.capacity ∧ s.compiler.capacity < 2 ^ 64) ∧
    ∀ ts : List String,
      (24 * s.compiler.capacity ≤ 2 ^ 63 - 1 →
        compile (α := Float) s.compiler ts = Failure.ofRejection (compileTokens s.compiler ts)) ∧
      (2 ^ 63 - 1 < 24 * s.compiler.capacity →
        compile (α := Float) s.compiler ts = .error (.unmet ⟨s.compiler.capacity⟩)) := by
  refine ⟨?_, exists_read_iff.1 ⟨text, s, h, rfl⟩, ?_⟩
  · obtain ⟨d, hd, hupdated⟩ := exists_document_of_read h
    refine ⟨d, hd, ?_⟩
    have hcapacity := hupdated .capacity
    change match d.value? "parser" "stack_capacity" with
      | some v => Field.capacity.Writes v s.compiler.capacity
      | none => s.compiler.capacity = Compiler.defaultCapacity at hcapacity
    split at hcapacity
    · exact hcapacity.1
    · exact hcapacity
  · intro ts
    rw [← le_maxCapacity_iff, ← not_le, ← le_maxCapacity_iff, not_le]
    exact ⟨compile_eq s.compiler ts, compile_of_maxCapacity_lt⟩

/-- The greatest capacity that can be set aside, and one more. -/
theorem usable_of_read_greatest :
    ∃ s s' : Settings, read "parser stack_capacity: 384307168202282325" = .ok s ∧
      read "parser stack_capacity: 384307168202282326" = .ok s' ∧
      compile (α := Float) s.compiler ["x"] = .ok (.var 'x') ∧
      compile (α := Float) s'.compiler ["x"] = .error (.unmet ⟨384307168202282326⟩) := by
  have hread : read "parser stack_capacity: 384307168202282325" =
      .ok (default.change (.capacity 384307168202282325)) := by decide +kernel
  have hread' : read "parser stack_capacity: 384307168202282326" =
      .ok (default.change (.capacity 384307168202282326)) := by decide +kernel
  have hroom := ((usable_of_read hread).2.2 ["x"]).1 (by decide)
  have hnone := ((usable_of_read hread').2.2 ["x"]).2 (by decide)
  exact ⟨_, _, hread, hread', hroom.trans (by decide +kernel), hnone⟩

/-- A capacity of a whole machine word is accepted, and nothing can be compiled with it. -/
theorem not_usable_wordCapacity :
    ∃ s, read "parser stack_capacity: 18446744073709551615" = .ok s ∧
      compile (α := Float) s.compiler ["x"] = .error (.unmet ⟨18446744073709551615⟩) ∧
      ¬ 24 * s.compiler.capacity ≤ 2 ^ 63 - 1 :=
  ⟨default.change (.capacity 18446744073709551615), by decide +kernel, by decide +kernel,
    by decide +kernel⟩

end Settings

end Quadrature

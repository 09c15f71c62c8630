import Mathlib.Data.Int.Notation
import Quadrature.Proofs.Rpn.Split

/-!
# Where a compilation breaks off

Whether a token list compiles, and with which error it does not, is decided by counting: the number
of pending operands is the number of leaves less the number of operators so far (`balance`), and
every token can be judged by that number alone (`fault?`).

* `Operands.step_eq_fault?`: one token, judged by the count.
* `Operands.run_take`: **as long as no token is at fault, the count is the height of the stack.**
* `compileTokens_of_isFirstFault`: the first token at fault decides, whatever follows it.
* `compile_classified`: **the outcome of every compilation.**
-/

namespace Quadrature

variable {α : Type} [Literal α] {c : Compiler} {ts : List String}

/-- The number of tokens that take this many operands. -/
def Token.countArity (α : Type) [Literal α] (x : Char) (n : ℕ) (ts : List String) : ℕ :=
  ts.countP fun t => (read? x t : Option (Token α)).any fun k => k.arity == n

/-- **The number of leaves less the number of operators.** -/
def balance (α : Type) [Literal α] (x : Char) (ts : List String) : ℤ :=
  Token.countArity α x 0 ts - Token.countArity α x 2 ts

/-- What is wrong with a token that was read so and finds `d` operands pending. -/
def Token.fault? (capacity : ℕ) (d : ℤ) (t : String) (position : ℕ) :
    Option (Token α) → Option CompileError
  | none => some (.invalidToken t position)
  | some (op _) => if d < 2 then some (.stackUnderflow t position) else none
  | some (func _) => if d < 1 then some (.stackUnderflow t position) else none
  | some (var _) => if d = capacity then some (.stackOverflow capacity) else none
  | some (const _) => if d = capacity then some (.stackOverflow capacity) else none

/-- What is wrong with the token at a position, as far as the tokens before it show. -/
def fault? (α : Type) [Literal α] (c : Compiler) (ts : List String) (p : ℕ) :
    Option CompileError :=
  ts[p]?.bind fun t =>
    Token.fault? c.capacity (balance α c.symbol (ts.take p)) t p
      (Token.read? c.symbol t : Option (Token α))

/-- The first token at fault, and what is wrong with it. -/
structure IsFirstFault (α : Type) [Literal α] (c : Compiler) (ts : List String) (p : ℕ)
    (u : CompileError) : Prop where
  fault : fault? α c ts p = some u
  least : ∀ q < p, fault? α c ts q = none

/-- What a token adds to the count: a leaf one, an operator minus one. -/
theorem balance_append_singleton {x : Char} {t : String} {k : Token α}
    (h : Token.read? x t = some k) : balance α x (ts ++ [t]) = balance α x ts + 1 - k.arity := by
  unfold balance Token.countArity
  rw [List.countP_append, List.countP_append]
  cases k <;> simp [h, Token.arity] <;> omega

namespace Operands

/-- **One token, judged by the count.** The height of the stack says whether it is at fault, and
otherwise it leaves one operand in the place of those that it takes. -/
theorem step_eq_fault? (s : Operands α) {d : ℤ} (hd : (s.size : ℤ) = d)
    (hfit : s.size ≤ s.capacity) (position : ℕ) (t : String) :
    match Token.fault? s.capacity d t position (Token.read? c.symbol t : Option (Token α)) with
    | some u => s.step c position t = .error u
    | none => ∃ (k : Token α) (s' : Operands α), Token.read? c.symbol t = some k ∧
        s.step c position t = .ok s' ∧ (s'.size : ℤ) = d + 1 - k.arity ∧
        s'.capacity = s.capacity ∧ s'.size ≤ s'.capacity := by
  rw [step_eq]
  obtain ⟨es, capacity⟩ := s
  subst hd
  simp only [size] at hfit ⊢
  cases hk : (Token.read? c.symbol t : Option (Token α)) with
  | none => rfl
  | some k =>
    cases k with
    | var | const =>
      -- a leaf needs room
      by_cases hfull : es.length = capacity
      · simp [Token.fault?, Token.build, hfull]
      · have hroom : es.length + 1 ≤ capacity := by omega
        have hnot : ¬ ((es.length : ℤ) = capacity) := by omega
        simp [Token.fault?, Token.build, Token.arity, hroom, hnot]
    | func f =>
      rcases es with _ | ⟨e, es⟩
      · simp [Token.fault?, Token.build]
      · have hroom : es.length + 1 ≤ capacity := by simpa using hfit
        have hnot : ¬ ((es.length : ℤ) + 1 < 1) := by omega
        simp [Token.fault?, Token.build, Token.arity, hroom, hnot]
    | op o =>
      rcases es with _ | ⟨r, _ | ⟨l, es⟩⟩
      · simp [Token.fault?, Token.build]
      · simp [Token.fault?, Token.build]
      · have hroom : es.length + 1 ≤ capacity := by simp at hfit; omega
        have hnot : ¬ ((es.length : ℤ) + 1 + 1 < 2) := by omega
        simp [Token.fault?, Token.build, Token.arity, hroom, hnot]
        omega

/-- **As long as no token is at fault, the count is the height of the stack.** -/
theorem run_take {p : ℕ} (hp : p ≤ ts.length) (h : ∀ q < p, fault? α c ts q = none) :
    ∃ s : Operands α, (empty c.capacity : Operands α).run c 0 (ts.take p) = .ok s ∧
      (s.size : ℤ) = balance α c.symbol (ts.take p) ∧ s.capacity = c.capacity ∧
      s.size ≤ s.capacity := by
  induction p with
  | zero => exact ⟨empty c.capacity, rfl, rfl, rfl, Nat.zero_le _⟩
  | succ p ih =>
    obtain ⟨s, hrun, hsize, hcap, hfit⟩ := ih (by omega) fun q hq => h q (by omega)
    have hlt : p < ts.length := by omega
    have hfault := h p (by omega)
    have hstep := step_eq_fault? (c := c) s hsize hfit p ts[p]
    simp only [fault?, List.getElem?_eq_getElem hlt, Option.bind_some] at hfault
    rw [hcap, hfault] at hstep
    obtain ⟨k, s', hk, hs', hsize', hcap', hfit'⟩ := hstep
    rw [List.take_succ_eq_append_getElem hlt]
    refine ⟨s', ?_, ?_, hcap', hfit'⟩
    · rw [run_append, hrun, List.length_take_of_le (Nat.le_of_lt hlt)]
      simp only [Except.bind, Nat.zero_add, run_cons, hs']
      rfl
    · rw [hsize', balance_append_singleton hk]

end Operands

/-- **The first token at fault decides**, whatever follows it. -/
theorem compileTokens_of_isFirstFault {p : ℕ} {u : CompileError} (h : IsFirstFault α c ts p u)
    (rest : List String) : compileTokens (α := α) c (ts.take (p + 1) ++ rest) = .error u := by
  have hfault := h.fault
  by_cases hlt : p < ts.length
  · obtain ⟨s, hrun, hsize, hcap, hfit⟩ := Operands.run_take (Nat.le_of_lt hlt) h.least
    have hstep := Operands.step_eq_fault? (c := c) s hsize hfit p ts[p]
    simp only [fault?, List.getElem?_eq_getElem hlt, Option.bind_some] at hfault
    rw [hcap, hfault] at hstep
    have hstep : s.step c p ts[p] = .error u := hstep
    unfold compileTokens Operands.complete
    rw [List.take_succ_eq_append_getElem hlt, List.append_assoc, List.singleton_append,
      Operands.run_append, hrun, List.length_take_of_le (Nat.le_of_lt hlt)]
    simp only [Except.bind, Nat.zero_add, Operands.run_cons, hstep]
    rfl
  · -- beyond the last token there is none that could be at fault
    simp [fault?, List.getElem?_eq_none (Nat.not_lt.1 hlt)] at hfault

/-- Without a token at fault the whole list is run. -/
theorem exists_run (h : ∀ p, fault? α c ts p = none) :
    ∃ s : Operands α, (Operands.empty c.capacity : Operands α).run c 0 ts = .ok s ∧
      (s.size : ℤ) = balance α c.symbol ts := by
  obtain ⟨s, hrun, hsize, -⟩ := Operands.run_take (Nat.le_refl _) fun q _ => h q
  rw [List.take_length] at hrun hsize
  exact ⟨s, hrun, hsize⟩

/-- Nothing is left of an empty list alone. -/
theorem Operands.pending_eq_nil_iff {s : Operands α} {capacity position : ℕ}
    (h : (empty capacity : Operands α).run c position ts = .ok s) : s.pending = [] ↔ ts = [] := by
  obtain ⟨ks, hks, hf, -⟩ := forest_of_run h
  constructor
  · intro hnil
    rw [hnil] at hf
    obtain rfl : ks = [] := by simpa [empty] using hf.symm
    exact List.forall₂_nil_right_iff.1 hks
  · rintro rfl
    cases h
    rfl

/-- What is left decides when no token does. -/
theorem compileTokens_of_run {s : Operands α}
    (h : (Operands.empty c.capacity : Operands α).run c 0 ts = .ok s) :
    compileTokens c ts = s.finish := by
  unfold compileTokens Operands.complete
  rw [h]
  rfl

/-- **The outcomes of a list without a token at fault**, by the count over the whole list. -/
theorem compileTokens_outcome (h : ∀ p, fault? α c ts p = none) :
    (compileTokens (α := α) c ts = .error .emptyExpression ↔ ts = []) ∧
      ((∃ e : Expr α, compileTokens c ts = .ok e) ↔ balance α c.symbol ts = 1) ∧
      ∀ n : ℕ, compileTokens (α := α) c ts = .error (.trailingOperands n) ↔
        2 ≤ n ∧ balance α c.symbol ts = n := by
  obtain ⟨s, hrun, hsize⟩ := exists_run h
  have hnil := Operands.pending_eq_nil_iff hrun
  rw [compileTokens_of_run hrun, ← hsize, ← hnil]
  obtain ⟨es, capacity⟩ := s
  unfold Operands.finish Operands.size
  rcases es with _ | ⟨e, _ | ⟨e', es⟩⟩
  · refine ⟨by simp, by simp, ?_⟩
    intro n
    simp only [List.length_nil, reduceCtorEq, Except.error.injEq, false_iff]
    omega
  · refine ⟨by simp, by simp, ?_⟩
    intro n
    simp only [List.length_cons, List.length_nil, reduceCtorEq, false_iff]
    omega
  · refine ⟨by simp, ?_, ?_⟩
    · simp only [List.length_cons, reduceCtorEq, exists_false, false_iff]
      omega
    · intro n
      simp only [List.length_cons, Except.error.injEq, CompileError.trailingOperands.injEq]
      omega

/-- **The outcome of every compilation.** A stack that cannot be set aside stops the program. On any
other the first token at fault decides, whatever follows it: a token of no class, an operator or a
function that finds too few operands, a leaf that finds the stack full. Without such a token the
count decides, and a list that leaves several operands is cut in one way into that many lists that
compile. -/
theorem compile_classified (c : Compiler) (ts : List String) :
    (Operands.maxCapacity < c.capacity →
      compile (α := α) c ts = .error (.unmet ⟨c.capacity⟩)) ∧
    (c.capacity ≤ Operands.maxCapacity →
      (∀ p u, IsFirstFault α c ts p u → ∀ rest,
        compile (α := α) c (ts.take (p + 1) ++ rest) = .error (.rejected u)) ∧
      ((∀ p, fault? α c ts p = none) →
        (compile (α := α) c ts = .error (.rejected .emptyExpression) ↔ ts = []) ∧
        ((∃ e : Expr α, compile c ts = .ok e) ↔ balance α c.symbol ts = 1) ∧
        (∀ n : ℕ, compile (α := α) c ts = .error (.rejected (.trailingOperands n)) ↔
          2 ≤ n ∧ balance α c.symbol ts = n) ∧
        (balance α c.symbol ts = 0 ↔ ts = []) ∧ 0 ≤ balance α c.symbol ts ∧
        (2 ≤ balance α c.symbol ts →
          ∃! tss : List (List String), tss.flatten = ts ∧ tss.length = balance α c.symbol ts ∧
            ∀ us ∈ tss, us ≠ [] ∧ ∃ e : Expr α, compile c us = .ok e))) := by
  refine ⟨compile_of_maxCapacity_lt, ?_⟩
  intro hc
  have hrejected : ∀ us u, compile (α := α) c us = .error (.rejected u) ↔
      compileTokens (α := α) c us = .error u := by
    intro us u
    rw [compile_eq c us hc]
    cases compileTokens (α := α) c us <;> simp [Failure.ofRejection]
  have hok : ∀ us (e : Expr α), compile c us = .ok e ↔ compileTokens c us = .ok e := by
    intro us e
    rw [compile_eq_ok_iff]
    exact and_iff_right hc
  simp only [hrejected, hok]
  constructor
  · intro p u hp rest
    exact compileTokens_of_isFirstFault hp rest
  · intro h
    obtain ⟨hempty, hone, hmore⟩ := compileTokens_outcome h
    obtain ⟨s, hrun, hsize⟩ := exists_run h
    have hnil := Operands.pending_eq_nil_iff hrun
    refine ⟨hempty, hone, hmore, ?_, by omega, ?_⟩
    · rw [← hsize, ← hnil, ← List.length_eq_zero_iff]
      unfold Operands.size
      omega
    · intro _
      obtain ⟨tss, ⟨hts, hlen, hall⟩, hunique⟩ := existsUnique_split hrun
      refine ⟨tss, ⟨hts, by omega, hall⟩, ?_⟩
      rintro uss ⟨hus, hlen', hall'⟩
      exact hunique uss ⟨hus, by omega, hall'⟩

/-- On two places the third leaf overflows before the text that is no token is looked at, and two
lists that compile leave two operands together. -/
theorem compile_classified_twoPlaces :
    IsFirstFault Float ⟨'x', 2⟩ ["x", "2", "3", "%"] 2 (.stackOverflow 2) ∧
      compile (α := Float) ⟨'x', 2⟩ ["x", "2", "3", "%"] = .error (.rejected (.stackOverflow 2)) ∧
      (∀ p, fault? Float ⟨'x', 2⟩ ["x", "2", "sin"] p = none) ∧
      compile (α := Float) ⟨'x', 2⟩ ["x", "2", "sin"] =
        .error (.rejected (.trailingOperands 2)) ∧
      (∃! tss : List (List String), tss.flatten = ["x", "2", "sin"] ∧ tss.length = (2 : ℤ) ∧
        ∀ us ∈ tss, us ≠ [] ∧ ∃ e : Expr Float, compile ⟨'x', 2⟩ us = .ok e) ∧
      compile (α := Float) ⟨'x', Operands.maxCapacity + 1⟩ [] =
        .error (.unmet ⟨Operands.maxCapacity + 1⟩) := by
  have hfirst : IsFirstFault Float ⟨'x', 2⟩ ["x", "2", "3", "%"] 2 (.stackOverflow 2) := by
    refine ⟨by decide +kernel, ?_⟩
    intro q hq
    rcases q with _ | _ | q
    · decide +kernel
    · decide +kernel
    · omega
  have hnone : ∀ p, fault? Float ⟨'x', 2⟩ ["x", "2", "sin"] p = none := by
    intro p
    rcases p with _ | _ | _ | p
    · decide +kernel
    · decide +kernel
    · decide +kernel
    · rfl
  have hbalance : balance Float 'x' ["x", "2", "sin"] = 2 := by decide +kernel
  obtain ⟨hfault, -⟩ :=
    (compile_classified (α := Float) ⟨'x', 2⟩ ["x", "2", "3", "%"]).2 (by decide)
  obtain ⟨-, hrest⟩ := (compile_classified (α := Float) ⟨'x', 2⟩ ["x", "2", "sin"]).2 (by decide)
  obtain ⟨-, -, htrailing, -, -, hsplit⟩ := hrest hnone
  rw [hbalance] at hsplit
  have hmax := (compile_classified (α := Float) ⟨'x', Operands.maxCapacity + 1⟩ []).1
    (Nat.lt_succ_self _)
  exact ⟨hfirst, hfault 2 _ hfirst ["%"], hnone, (htrailing 2).2 ⟨Nat.le_refl _, hbalance⟩,
    hsplit (by decide), hmax⟩

/-- With a capacity of a whole machine word no token of the variable alone is at fault and one
operand is left, but nothing is compiled. -/
theorem compile_unclassified_wordCapacity :
    (∀ p, fault? Float ⟨'x', UInt64.size - 1⟩ ["x"] p = none) ∧ balance Float 'x' ["x"] = 1 ∧
      ¬ ∃ e : Expr Float, compile ⟨'x', UInt64.size - 1⟩ ["x"] = .ok e := by
  refine ⟨?_, by decide +kernel, ?_⟩
  · intro p
    rcases p with _ | p
    · decide +kernel
    · rfl
  · rintro ⟨e, he⟩
    have hbound := (compile_eq_ok_iff.1 he).1
    exact absurd hbound (by decide)

end Quadrature

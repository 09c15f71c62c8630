import Mathlib.Data.List.Forall2
import Mathlib.Tactic.Common
import Quadrature.Rpn.Compile

/-!
# The token lists that compile

A token list is in **postfix form** for a tree if its tokens are, one by one, the nodes of the tree
in postorder. The compiler accepts exactly these lists, as long as the tree needs no more pending
operands than there is room for (`compile_eq_ok_iff_postfix`).

* `Operands.step_eq`: what one token does to the stack, in every case.
* `Operands.run_postorder`: the tokens of a tree push that tree, or overflow.
* `Operands.forest_of_run`: **the pending trees, written out in postorder, are the tokens read.**
-/

namespace Quadrature

variable {α : Type}

/-- The number of operands that are pending at most while a tree is built. -/
def Expr.need : Expr α → Nat
  | .var _ => 1
  | .const _ => 1
  | .func _ e => e.need
  | .op _ l r => max l.need (1 + r.need)

theorem Expr.need_pos (e : Expr α) : 1 ≤ e.need := by
  induction e with
  | var | const => exact Nat.le_refl 1
  | func f e ih => exact ih
  | op o l r ihl ihr => exact Nat.le_trans ihl (Nat.le_max_left _ _)

theorem Func.ofName?_eq_some {t : String} {f : Func} : Func.ofName? t = some f ↔ t = f.name := by
  constructor
  · intro h
    unfold Func.ofName? at h
    have := List.find?_some h
    exact (eq_of_beq this).symm
  · rintro rfl
    exact Func.ofName?_name f

theorem Op.ofSymbol?_eq_some {c : Char} {o : Op} : Op.ofSymbol? c = some o ↔ c = o.symbol := by
  constructor
  · intro h
    unfold Op.ofSymbol? at h
    have := List.find?_some h
    exact (eq_of_beq this).symm
  · rintro rfl
    exact Op.ofSymbol?_symbol o

theorem Op.ofName?_eq_some {t : String} {o : Op} : Op.ofName? t = some o ↔ t = o.name := by
  unfold Op.ofName? Op.name
  constructor
  · intro h
    split at h
    · rename_i c hc
      rw [← String.ofList_toList (s := t), hc, Op.ofSymbol?_eq_some.1 h]
      rfl
    · cases h
  · rintro rfl
    simp

namespace Token

variable [Literal α]

/-- **The class of a text.** The variable comes before the operators, these before the names of
functions, and the numbers come last. -/
def IsClassOf (x : Char) (t : String) : Token α → Prop
  | var c => c = x ∧ t = String.singleton x
  | op o => t ≠ String.singleton x ∧ t = o.name
  | func f => t ≠ String.singleton x ∧ (∀ o : Op, t ≠ o.name) ∧ t = f.name
  | const k => t ≠ String.singleton x ∧ (∀ o : Op, t ≠ o.name) ∧ (∀ f : Func, t ≠ f.name) ∧
      Literal.read? t = some k

theorem read?_eq_some_iff {x : Char} {t : String} {k : Token α} :
    read? x t = some k ↔ k.IsClassOf x t := by
  unfold read?
  by_cases hx : t = String.singleton x
  · cases k <;> simp [IsClassOf, hx, eq_comm]
  rw [if_neg hx]
  cases ho : Op.ofName? t with
  | some o =>
    cases k <;> simp [IsClassOf, hx, ← Op.ofName?_eq_some, ho]
  | none =>
    have hno : ∀ o : Op, t ≠ o.name := by
      intro o h
      rw [Op.ofName?_eq_some.2 h] at ho
      cases ho
    cases hf : Func.ofName? t with
    | some f =>
      cases k <;> simp [IsClassOf, hx, hno, ← Func.ofName?_eq_some, hf]
    | none =>
      have hnf : ∀ f : Func, t ≠ f.name := by
        intro f h
        rw [Func.ofName?_eq_some.2 h] at hf
        cases hf
      cases k <;> simp [IsClassOf, hx, hno, hnf]

/-- The pending trees after a token, the last one pushed first. -/
def build : Token α → List (Expr α) → Option (List (Expr α))
  | var x, es => some (.var x :: es)
  | const k, es => some (.const k :: es)
  | func f, e :: es => some (.func f e :: es)
  | op o, r :: l :: es => some (.op o l r :: es)
  | _, _ => none

end Token

namespace Operands

variable [Literal α] {c : Compiler}

/-- **One token.** It is read, takes its operands, and needs room for the tree it leaves. -/
theorem step_eq (s : Operands α) (position : Nat) (t : String) :
    s.step c position t =
      match (Token.read? c.symbol t : Option (Token α)) with
      | none => .error (.invalidToken t position)
      | some k =>
        match k.build s.pending with
        | none => .error (.stackUnderflow t position)
        | some es =>
          if es.length ≤ s.capacity then .ok ⟨es, s.capacity⟩
          else .error (.stackOverflow s.capacity) := by
  unfold step
  rcases s with ⟨es, n⟩
  cases (Token.read? c.symbol t : Option (Token α)) with
  | none => rfl
  | some k =>
    -- an operator that finds one operand only has taken it already, which does not show
    cases k with
    | var | const => rfl
    | func f => rcases es with _ | ⟨e, es⟩ <;> rfl
    | op o => rcases es with _ | ⟨r, _ | ⟨l, es⟩⟩ <;> rfl

theorem step_ok {s s' : Operands α} {position : Nat} {t : String}
    (h : s.step c position t = .ok s') :
    ∃ k : Token α, k.IsClassOf c.symbol t ∧ k.build s.pending = some s'.pending ∧
      s'.capacity = s.capacity := by
  rw [step_eq] at h
  -- of the four outcomes only the last is a stack
  split at h
  · cases h
  rename_i k hk
  split at h
  · cases h
  rename_i es hes
  split at h
  · cases h
    exact ⟨k, Token.read?_eq_some_iff.1 hk, hes, rfl⟩
  · cases h

theorem run_cons (s : Operands α) (position : Nat) (t : String) (ts : List String) :
    s.run c position (t :: ts) = (s.step c position t).bind fun s => s.run c (position + 1) ts := rfl

theorem run_cons_ok {s s' : Operands α} {position : Nat} {t : String} {ts : List String}
    (h : s.run c position (t :: ts) = .ok s') :
    ∃ s₁, s.step c position t = .ok s₁ ∧ s₁.run c (position + 1) ts = .ok s' := by
  rw [run_cons] at h
  cases hs : s.step c position t with
  | error e => rw [hs] at h; cases h
  | ok s₁ => rw [hs] at h; exact ⟨s₁, rfl, h⟩

end Operands

/-- Trees written out in postorder, the last one of the list first. -/
def forest (es : List (Expr α)) : List (Token α) := es.reverse.flatMap Expr.postorder

@[simp] theorem forest_nil : forest ([] : List (Expr α)) = [] := rfl

@[simp] theorem forest_cons (e : Expr α) (es : List (Expr α)) :
    forest (e :: es) = forest es ++ e.postorder := by
  simp [forest]

/-- A token that is built in is written last. -/
theorem Token.forest_build {k : Token α} {es es' : List (Expr α)} (h : k.build es = some es') :
    forest es' = forest es ++ [k] := by
  unfold Token.build at h
  split at h
  case h_5 => cases h
  all_goals
    cases h
    simp [Expr.postorder]

/-- **Postfix form.** The tokens are the nodes of the tree in postorder. -/
def Postfix [Literal α] (x : Char) (ts : List String) (e : Expr α) : Prop :=
  List.Forall₂ (fun t k => k.IsClassOf x t) ts e.postorder

namespace Postfix

variable [Literal α] {x : Char} {ts : List String}

theorem of_append {l₁ l₂ : List (Token α)}
    (h : List.Forall₂ (fun t (k : Token α) => k.IsClassOf x t) ts (l₁ ++ l₂)) :
    ∃ ts₁ ts₂, ts = ts₁ ++ ts₂ ∧ List.Forall₂ (fun t k => k.IsClassOf x t) ts₁ l₁ ∧
      List.Forall₂ (fun t k => k.IsClassOf x t) ts₂ l₂ :=
  ⟨_, _, (List.take_append_drop l₁.length ts).symm, List.forall₂_take_append _ _ _ h,
    List.forall₂_drop_append _ _ _ h⟩

theorem of_singleton {k : Token α}
    (h : List.Forall₂ (fun t (k : Token α) => k.IsClassOf x t) ts [k]) :
    ∃ t, ts = [t] ∧ k.IsClassOf x t := by
  obtain ⟨t, _, ht, h', rfl⟩ := List.forall₂_cons_right_iff.1 h
  rw [List.forall₂_nil_right_iff.1 h']
  exact ⟨t, rfl, ht⟩

theorem func_inv {f : Func} {e : Expr α} (h : Postfix x ts (.func f e)) :
    ∃ ts₁ t, ts = ts₁ ++ [t] ∧ Postfix x ts₁ e ∧ (Token.func f : Token α).IsClassOf x t := by
  obtain ⟨ts₁, ts₂, rfl, h₁, h₂⟩ := of_append h
  obtain ⟨t, rfl, ht⟩ := of_singleton h₂
  exact ⟨ts₁, t, rfl, h₁, ht⟩

theorem op_inv {o : Op} {l r : Expr α} (h : Postfix x ts (.op o l r)) :
    ∃ ts₁ ts₂ t, ts = ts₁ ++ ts₂ ++ [t] ∧ Postfix x ts₁ l ∧ Postfix x ts₂ r ∧
      (Token.op o : Token α).IsClassOf x t := by
  obtain ⟨ts', ts₃, rfl, h', h₃⟩ := of_append h
  obtain ⟨ts₁, ts₂, rfl, h₁, h₂⟩ := of_append h'
  obtain ⟨t, rfl, ht⟩ := of_singleton h₃
  exact ⟨ts₁, ts₂, t, rfl, h₁, h₂, ht⟩

/-- No token is lost or written twice. -/
theorem length_eq {e : Expr α} (h : Postfix x ts e) : ts.length = e.size := by
  rw [← e.length_postorder]
  exact List.Forall₂.length_eq h

end Postfix

namespace Operands

variable [Literal α] {c : Compiler}

/-- **The pending trees, written out, are the tokens read**, and the capacity stays. -/
theorem forest_of_run {s s' : Operands α} {position : Nat} {ts : List String}
    (h : s.run c position ts = .ok s') :
    ∃ ks : List (Token α), List.Forall₂ (fun t k => k.IsClassOf c.symbol t) ts ks ∧
      forest s'.pending = forest s.pending ++ ks ∧ s'.capacity = s.capacity := by
  induction ts generalizing s position with
  | nil =>
    cases h
    exact ⟨[], .nil, by simp, rfl⟩
  | cons t ts ih =>
    obtain ⟨s₁, hs, hr⟩ := run_cons_ok h
    obtain ⟨k, hk, hb, hc⟩ := step_ok hs
    obtain ⟨ks, hks, hf, hc'⟩ := ih hr
    -- the token that was built in now stands before those that follow
    refine ⟨k :: ks, .cons hk hks, ?_, hc'.trans hc⟩
    rw [hf, Token.forest_build hb, List.append_assoc, List.singleton_append]

/-- A token that finds its operands, if the tree it leaves has room. -/
theorem run_of_build {s : Operands α} {position : Nat} {t : String} {k : Token α}
    {es : List (Expr α)} (hk : k.IsClassOf c.symbol t) (hb : k.build s.pending = some es)
    (rest : List String) :
    s.run c position (t :: rest) =
      if es.length ≤ s.capacity then (⟨es, s.capacity⟩ : Operands α).run c (position + 1) rest
      else .error (.stackOverflow s.capacity) := by
  rw [run_cons, step_eq, Token.read?_eq_some_iff.2 hk]
  simp only [hb]
  split <;> rfl

/-- **The tokens of a tree push that tree** if the tree fits into what is left of the stack, and
otherwise overflow it. -/
theorem run_postorder (e : Expr α) {s : Operands α} {position : Nat} {ts : List String}
    (h : Postfix c.symbol ts e) (rest : List String) :
    s.run c position (ts ++ rest) =
      if s.size + e.need ≤ s.capacity then
        (⟨e :: s.pending, s.capacity⟩ : Operands α).run c (position + ts.length) rest
      else .error (.stackOverflow s.capacity) := by
  induction e generalizing s position ts rest with
  | var | const =>
    obtain ⟨t, rfl, ht⟩ := Postfix.of_singleton h
    exact run_of_build ht rfl rest
  | func f e ih =>
    obtain ⟨ts₁, t, rfl, h₁, ht⟩ := h.func_inv
    rw [List.append_assoc, List.singleton_append, ih h₁]
    have := e.need_pos
    by_cases hn : s.size + e.need ≤ s.capacity
    · have hl : (Expr.func f e :: s.pending).length ≤ s.capacity := by
        simp only [List.length_cons, size] at hn ⊢; omega
      rw [if_pos hn, run_of_build ht rfl, if_pos hl, List.length_append, Nat.add_assoc]
      exact (if_pos hn).symm
    · -- a function needs what its operand needs
      rw [if_neg hn]
      exact (if_neg hn).symm
  | op o l r ihl ihr =>
    obtain ⟨ts₁, ts₂, t, rfl, h₁, h₂, ht⟩ := h.op_inv
    rw [List.append_assoc, List.append_assoc, List.singleton_append, ihl h₁]
    have hl := l.need_pos
    have hneed : (Expr.op o l r).need = max l.need (1 + r.need) := rfl
    by_cases hnl : s.size + l.need ≤ s.capacity
    · -- the right operand is built above the left one, with one place less
      rw [if_pos hnl, ihr h₂]
      have hsize : (⟨l :: s.pending, s.capacity⟩ : Operands α).size = s.size + 1 := rfl
      by_cases hnr : s.size + 1 + r.need ≤ s.capacity
      · have hlen : (Expr.op o l r :: s.pending).length ≤ s.capacity := by
          simp only [List.length_cons, size] at hnl ⊢; omega
        rw [hsize, if_pos hnr, run_of_build ht rfl, if_pos hlen, if_pos (by omega)]
        simp only [List.length_append, List.length_singleton, Nat.add_assoc]
      · rw [hsize, if_neg hnr, if_neg (by omega)]
    · rw [if_neg hnl, if_neg (by omega)]

/-- A token list on an empty stack. -/
theorem complete_postorder {e : Expr α} {ts : List String} (h : Postfix c.symbol ts e) :
    compileTokens c ts =
      if e.need ≤ c.capacity then .ok e else .error (.stackOverflow c.capacity) := by
  have hr : (Operands.empty c.capacity : Operands α).run c 0 (ts ++ []) = _ := run_postorder e h []
  rw [List.append_nil] at hr
  have hs : (Operands.empty c.capacity : Operands α).size = 0 := rfl
  have hc : (Operands.empty c.capacity : Operands α).capacity = c.capacity := rfl
  unfold compileTokens complete
  rw [hr, hs, hc, Nat.zero_add]
  split <;> rfl

/-- A compilation that succeeds ends with one pending tree. -/
theorem run_of_complete {e : Expr α} {ts : List String} (h : compileTokens c ts = .ok e) :
    ∃ s, (Operands.empty c.capacity : Operands α).run c 0 ts = .ok s ∧ s.pending = [e] := by
  unfold compileTokens complete at h
  cases hr : (Operands.empty c.capacity : Operands α).run c 0 ts with
  | error u => rw [hr] at h; cases h
  | ok s =>
    rw [hr] at h
    have h : s.finish = .ok e := h
    unfold finish at h
    split at h
    · cases h
    · rename_i e' he
      cases h
      exact ⟨s, rfl, he⟩
    · cases h

/-- A token list that leaves one tree is in postfix form for that tree. -/
theorem postfix_of_complete {e : Expr α} {ts : List String} (h : compileTokens c ts = .ok e) :
    Postfix c.symbol ts e := by
  obtain ⟨s, hr, hp⟩ := run_of_complete h
  obtain ⟨ks, hks, hf, -⟩ := forest_of_run hr
  rw [hp] at hf
  have hk : e.postorder = ks := by simpa [Operands.empty] using hf
  rw [Postfix, hk]
  exact hks

end Operands

section Compile

variable [Literal α] {c : Compiler} {ts : List String}

theorem compileTokens_eq_ok_iff {e : Expr α} :
    compileTokens c ts = .ok e ↔ Postfix c.symbol ts e ∧ e.need ≤ c.capacity := by
  constructor
  · intro h
    have hp := Operands.postfix_of_complete h
    refine ⟨hp, ?_⟩
    by_contra hn
    rw [Operands.complete_postorder hp, if_neg hn] at h
    cases h
  · rintro ⟨hp, hn⟩
    rw [Operands.complete_postorder hp, if_pos hn]

/-- A token list is in postfix form for one tree at most. -/
theorem Postfix.unique {x : Char} {e e' : Expr α} (h : Postfix x ts e) (h' : Postfix x ts e') :
    e' = e := by
  -- with room for both, the compiler would have to return both
  have hok := (compileTokens_eq_ok_iff (c := ⟨x, max e.need e'.need⟩)).2 ⟨h, Nat.le_max_left _ _⟩
  have hok' := (compileTokens_eq_ok_iff (c := ⟨x, max e.need e'.need⟩)).2 ⟨h', Nat.le_max_right _ _⟩
  rw [hok] at hok'
  exact (Except.ok.inj hok').symm

/-- A stack whose room cannot be set aside stops the program before the first token. -/
theorem compile_of_maxCapacity_lt (h : Operands.maxCapacity < c.capacity) :
    compile (α := α) c ts = .error (.unmet ⟨c.capacity⟩) := by
  unfold compile Operands.reserve
  rw [if_neg (Nat.not_le.2 h)]

theorem compile_eq_ok_iff {e : Expr α} :
    compile c ts = .ok e ↔ c.capacity ≤ Operands.maxCapacity ∧ compileTokens c ts = .ok e := by
  by_cases hc : c.capacity ≤ Operands.maxCapacity
  · rw [compile_eq c ts hc]
    cases compileTokens (α := α) c ts <;> simp [Failure.ofRejection, hc]
  · rw [compile_of_maxCapacity_lt (Nat.not_le.1 hc)]
    simp [hc]

/-- **The compiler accepts the postfix forms that fit its stack**, provided that the stack can be
set aside at all; otherwise every token list stops the program. A token list is the postfix form of
one tree at most, with a token for every node. -/
theorem compile_eq_ok_iff_postfix (c : Compiler) (ts : List String) :
    (∀ e : Expr α, compile c ts = .ok e ↔
      c.capacity ≤ Operands.maxCapacity ∧ Postfix c.symbol ts e ∧ e.need ≤ c.capacity) ∧
    (∀ e : Expr α, Postfix c.symbol ts e →
      ts.length = e.size ∧ ∀ e' : Expr α, Postfix c.symbol ts e' → e' = e) ∧
    (Operands.maxCapacity < c.capacity →
      compile (α := α) c ts = .error (.unmet ⟨c.capacity⟩)) := by
  refine ⟨?_, ?_, compile_of_maxCapacity_lt⟩
  · intro e
    rw [compile_eq_ok_iff, compileTokens_eq_ok_iff]
  · intro e h
    refine ⟨h.length_eq, ?_⟩
    intro e' h'
    exact h.unique h'

end Compile

/-- The difference `x - 2` in postfix form, on two pending operands. -/
theorem compile_difference :
    Postfix 'x' ["x", "2", "-"] (.op .sub (.var 'x') (.const (2 : Float))) ∧
      compile ⟨'x', 2⟩ ["x", "2", "-"] = .ok (.op .sub (.var 'x') (.const (2 : Float))) ∧
      ["x", "2", "-"].length = (Expr.op .sub (.var 'x') (.const (2 : Float))).size ∧
      compile (α := Float) ⟨'x', Operands.maxCapacity + 1⟩ ["x", "2", "-"] =
        .error (.unmet ⟨Operands.maxCapacity + 1⟩) := by
  have hok : compile ⟨'x', 2⟩ ["x", "2", "-"] = .ok (.op .sub (.var 'x') (.const (2 : Float))) := by
    decide +kernel
  obtain ⟨hiff, hone, -⟩ := compile_eq_ok_iff_postfix (α := Float) ⟨'x', 2⟩ ["x", "2", "-"]
  obtain ⟨-, -, hmax⟩ := compile_eq_ok_iff_postfix (α := Float) ⟨'x', Operands.maxCapacity + 1⟩
    ["x", "2", "-"]
  have hp := ((hiff _).1 hok).2.1
  exact ⟨hp, hok, (hone _ hp).1, hmax (Nat.lt_succ_self _)⟩

/-- With a capacity of a whole machine word the variable alone, whose tree needs one operand, is
not compiled. -/
theorem compile_wordCapacity :
    Postfix 'x' ["x"] (.var 'x' : Expr Float) ∧
      (.var 'x' : Expr Float).need ≤ UInt64.size - 1 ∧
      compile (α := Float) ⟨'x', UInt64.size - 1⟩ ["x"] ≠ .ok (.var 'x') := by
  refine ⟨.cons ⟨rfl, rfl⟩ .nil, by decide, by decide +kernel⟩

end Quadrature

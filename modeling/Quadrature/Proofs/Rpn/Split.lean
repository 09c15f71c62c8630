import Quadrature.Proofs.Rpn.Postfix

/-!
# Token lists that leave several operands

A token list that was run to its end is a chain of postfix forms, one for every operand that it
leaves, and it can be cut into such a chain in one way only.

* `Operands.run_append`: a list is run part after part.
* `Operands.exists_split`: **the operands that are left, each with its own tokens.**
* `Operands.pending_of_split`: a chain of postfix forms leaves its trees, and each of them fits.
* `existsUnique_split`: there is one chain.
-/

namespace Quadrature

variable {α : Type} [Literal α] {c : Compiler}

namespace Operands

theorem run_append (s : Operands α) (position : Nat) (ts us : List String) :
    s.run c position (ts ++ us) =
      (s.run c position ts).bind fun s => s.run c (position + ts.length) us := by
  induction ts generalizing s position with
  | nil => rfl
  | cons t ts ih =>
    rw [List.cons_append, run_cons, run_cons]
    cases hs : s.step c position t with
    | error u => rfl
    | ok s₁ =>
      have hlen : position + 1 + ts.length = position + (t :: ts).length := by
        simp only [List.length_cons]
        omega
      simp only [Except.bind, ih, hlen]

/-- Tokens that are the nodes of several trees are cut into the tokens of each. -/
theorem exists_cut {x : Char} {ts : List String} {es : List (Expr α)}
    (h : List.Forall₂ (fun t (k : Token α) => k.IsClassOf x t) ts (es.flatMap Expr.postorder)) :
    ∃ tss : List (List String), tss.flatten = ts ∧ List.Forall₂ (Postfix x) tss es := by
  induction es generalizing ts with
  | nil =>
    obtain rfl := List.forall₂_nil_right_iff.1 h
    exact ⟨[], rfl, .nil⟩
  | cons e es ih =>
    rw [List.flatMap_cons] at h
    obtain ⟨ts₁, ts₂, rfl, h₁, h₂⟩ := Postfix.of_append h
    obtain ⟨tss, rfl, htss⟩ := ih h₂
    exact ⟨ts₁ :: tss, rfl, .cons h₁ htss⟩

/-- **The operands that are left, each with its own tokens**, the first one pushed first. -/
theorem exists_split {s : Operands α} {capacity position : Nat} {ts : List String}
    (h : (empty capacity : Operands α).run c position ts = .ok s) :
    ∃ tss : List (List String), tss.flatten = ts ∧
      List.Forall₂ (Postfix c.symbol) tss s.pending.reverse := by
  obtain ⟨ks, hks, hf, -⟩ := forest_of_run h
  have hk : s.pending.reverse.flatMap Expr.postorder = ks := by
    simpa [forest, empty] using hf
  exact exists_cut (hk ▸ hks)

/-- **A chain of postfix forms** that is run to its end leaves its trees above what was there, and
each of them fits. -/
theorem pending_of_split {tss : List (List String)} {es : List (Expr α)}
    (hes : List.Forall₂ (Postfix c.symbol) tss es) {s s' : Operands α} {position : Nat}
    (h : s.run c position tss.flatten = .ok s') :
    s'.pending = es.reverse ++ s.pending ∧ ∀ e ∈ es, e.need ≤ s.capacity := by
  induction hes generalizing s position with
  | nil =>
    cases h
    simp
  | @cons ts e tss es hp _ ih =>
    rw [List.flatten_cons, run_postorder e hp] at h
    -- the first tree fits, or the run would have ended there
    by_cases hfit : s.size + e.need ≤ s.capacity
    · rw [if_pos hfit] at h
      obtain ⟨hpending, hneed⟩ := ih h
      constructor
      · rw [hpending]
        simp
      · intro e' he'
        rcases List.mem_cons.1 he' with rfl | he'
        · omega
        · exact hneed e' he'
    · rw [if_neg hfit] at h
      cases h

end Operands

theorem Postfix.ne_nil {x : Char} {ts : List String} {e : Expr α} (h : Postfix x ts e) :
    ts ≠ [] := by
  rintro rfl
  have hlen := h.length_eq
  cases e <;> simp [Expr.size] at hlen <;> omega

/-- The parts of a chain are as long as the trees are large. -/
theorem Postfix.map_length {x : Char} {tss : List (List String)} {es : List (Expr α)}
    (h : List.Forall₂ (Postfix x) tss es) : tss.map List.length = es.map Expr.size := by
  induction h with
  | nil => rfl
  | cons hp _ ih => rw [List.map_cons, List.map_cons, hp.length_eq, ih]

/-- Lists that compile are a chain of postfix forms. -/
theorem Postfix.exists_chain {tss : List (List String)}
    (h : ∀ us ∈ tss, ∃ e : Expr α, compileTokens c us = .ok e) :
    ∃ es : List (Expr α), List.Forall₂ (Postfix c.symbol) tss es := by
  induction tss with
  | nil => exact ⟨[], .nil⟩
  | cons us tss ih =>
    obtain ⟨e, he⟩ := h us List.mem_cons_self
    obtain ⟨es, hes⟩ := ih fun vs hvs => h vs (List.mem_cons_of_mem _ hvs)
    exact ⟨e :: es, .cons (compileTokens_eq_ok_iff.1 he).1 hes⟩

/-- **There is one way to cut a list into parts that compile**, and it has a part for every operand
that the list leaves. -/
theorem existsUnique_split {ts : List String} {s : Operands α}
    (h : (Operands.empty c.capacity : Operands α).run c 0 ts = .ok s) :
    ∃! tss : List (List String), tss.flatten = ts ∧ tss.length = s.size ∧
      ∀ us ∈ tss, us ≠ [] ∧ ∃ e : Expr α, compileTokens c us = .ok e := by
  obtain ⟨tss, hts, hes⟩ := Operands.exists_split h
  have hfit := (Operands.pending_of_split hes (hts ▸ h)).2
  refine ⟨tss, ⟨hts, ?_, ?_⟩, ?_⟩
  · rw [hes.length_eq, List.length_reverse]
    rfl
  · intro us hus
    obtain ⟨i, hi, rfl⟩ := List.getElem_of_mem hus
    have hi' : i < s.pending.reverse.length := hes.length_eq ▸ hi
    have hp : Postfix c.symbol tss[i] s.pending.reverse[i] := hes.get hi hi'
    have hneed := hfit _ (List.getElem_mem hi')
    exact ⟨hp.ne_nil, _, compileTokens_eq_ok_iff.2 ⟨hp, hneed⟩⟩
  · -- another chain would leave its own trees, and these are the ones that are left
    rintro uss ⟨hus, -, hall⟩
    obtain ⟨es, hes'⟩ := Postfix.exists_chain fun us hmem => (hall us hmem).2
    have hpending := (Operands.pending_of_split hes' (hus ▸ h)).1
    obtain rfl : es = s.pending.reverse := by
      rw [hpending]
      simp [Operands.empty]
    rw [List.eq_iff_flatten_eq]
    refine ⟨hus.trans hts.symm, ?_⟩
    rw [Postfix.map_length hes', Postfix.map_length hes]

end Quadrature

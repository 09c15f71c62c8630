import Quadrature.Proofs.Rpn.Postfix
import Quadrature.Proofs.Text.Words

/-!
# Compiling what was rendered

The reverse Polish form of a tree is a text. Its words are the texts of the nodes
(`rpnTokens_rpn`), and each of them is read as the node it came from (`isClassOf_text`), so the
compiler finds the tree again whenever the tree fits its stack (`compile_rpn`).

The numbers take part through four facts about their texts (`LawfulLiteral`); the variable must not
be spelt like a blank, a digit, or an operator of the tree (`Expr.Over`).
-/

namespace Quadrature

open Text

/-- **Texts of numbers that can stand among the tokens.** They read back, they hold no blank, and of
the texts that read as a number none is the name of a function, and those of one character are
digits. -/
class LawfulLiteral (α : Type) [Literal α] : Prop where
  read?_text : ∀ k : α, Literal.read? (Literal.text k) = some k
  text_ne_empty : ∀ k : α, (Literal.text k).toList ≠ []
  not_blank : ∀ k : α, ∀ c ∈ (Literal.text k).toList, isBlank c = false
  isDigit_of_read? : ∀ {c : Char} {k : α},
    Literal.read? (String.singleton c) = some k → c.isDigit = true
  read?_name : ∀ f : Func, (Literal.read? f.name : Option α) = none

variable {α : Type}

/-- The variables of a tree have this name, and none of its operators is spelt like it. -/
def Expr.Over (x : Char) : Expr α → Prop
  | .var y => y = x
  | .const _ => True
  | .func _ e => e.Over x
  | .op o l r => o.symbol ≠ x ∧ l.Over x ∧ r.Over x

/-- What `Expr.Over` says of one node. -/
def Token.Over (x : Char) : Token α → Prop
  | var y => y = x
  | op o => o.symbol ≠ x
  | _ => True

theorem Expr.over_iff {x : Char} {e : Expr α} :
    e.Over x ↔ ∀ k ∈ e.postorder, Token.Over x k := by
  induction e with
  | var | const => simp [Over, postorder, Token.Over]
  | func f e ih => simp [Over, postorder, Token.Over, ih, or_imp, forall_and]
  | op o l r ihl ihr =>
    simp only [Over, postorder, ihl, ihr, List.append_assoc, List.mem_append, List.mem_singleton,
      or_imp, forall_and, forall_eq, Token.Over]
    tauto

theorem Func.name_ne_singleton (f : Func) (c : Char) : f.name ≠ String.singleton c := by
  intro h
  have := congrArg (fun s : String => s.toList.length) h
  cases f <;> simp [name] at this

theorem Func.toList_name_not_blank (f : Func) :
    f.name.toList ≠ [] ∧ ∀ c ∈ f.name.toList, isBlank c = false := by
  cases f <;> simp [name, isBlank]

theorem Op.symbol_not_blank (o : Op) : isBlank o.symbol = false := by
  cases o <;> decide

theorem Op.symbol_not_digit (o : Op) : o.symbol.isDigit = false := by
  cases o <;> decide

/-- A compiled tree is a tree over its variable. -/
theorem Postfix.over [Literal α] {x : Char} {ts : List String} {e : Expr α}
    (h : Postfix x ts e) : e.Over x := by
  rw [Expr.over_iff]
  intro k hk
  obtain ⟨i, hi, rfl⟩ := List.getElem_of_mem hk
  obtain ⟨hlen, hall⟩ := List.forall₂_iff_get.1 h
  have ht := hall i (by omega) hi
  generalize ts.get _ = t at ht
  rw [List.get_eq_getElem] at ht
  cases hk' : e.postorder[i] with
  | var y => rw [hk'] at ht; exact ht.1
  | op o =>
    -- a token that reads as an operator is not spelt like the variable, which comes first
    rw [hk'] at ht
    intro ho
    exact ht.1 (by rw [ht.2, Op.name, ho])
  | const | func => trivial

section Render

variable [Literal α] [LawfulLiteral α] {x : Char}

/-- The text of a token is a word. -/
theorem Token.text_word (hx : isBlank x = false) {k : Token α} (hk : k.Over x) :
    k.text.toList ≠ [] ∧ ∀ c ∈ k.text.toList, isBlank c = false := by
  cases k with
  | var y =>
    have hy : y = x := hk
    subst hy
    simp [text, hx]
  | const k => exact ⟨LawfulLiteral.text_ne_empty k, LawfulLiteral.not_blank k⟩
  | func f => exact f.toList_name_not_blank
  | op o => simp [text, Op.name, o.symbol_not_blank]

/-- **A token is read as what it was.** -/
theorem Token.isClassOf_text (hx : x.isDigit = false) {k : Token α} (hk : k.Over x) :
    k.IsClassOf x k.text := by
  cases k with
  | var y =>
    have hy : y = x := hk
    subst hy
    exact ⟨rfl, rfl⟩
  | const k =>
    have hr := LawfulLiteral.read?_text k
    -- a number of one character would be a digit, which neither the variable nor an operator is
    have hone : ∀ c : Char, c.isDigit = false → Literal.text k ≠ String.singleton c := by
      intro c hc h
      rw [h] at hr
      rw [LawfulLiteral.isDigit_of_read? hr] at hc
      cases hc
    refine ⟨hone x hx, fun o => hone _ o.symbol_not_digit, ?_, hr⟩
    intro f h
    simp only [text] at h
    rw [h, LawfulLiteral.read?_name f] at hr
    cases hr
  | func f => exact ⟨f.name_ne_singleton x, fun o => f.name_ne_singleton _, rfl⟩
  | op o => exact ⟨fun h => hk (String.singleton_inj.1 h), rfl⟩

/-- **The words of the reverse Polish form** are the texts of the nodes. -/
theorem rpnTokens_rpn (hx : isBlank x = false) {e : Expr α} (he : e.Over x) :
    rpnTokens e.rpn = e.postorder.map Token.text := by
  have hw : ∀ w ∈ (e.postorder.map Token.text).map String.toList,
      w ≠ [] ∧ ∀ c ∈ w, isBlank c = false := by
    intro w hw
    rw [List.map_map, List.mem_map] at hw
    obtain ⟨k, hk, rfl⟩ := hw
    exact Token.text_word hx (Expr.over_iff.1 he k hk)
  unfold rpnTokens Expr.rpn
  rw [String.toList_intercalate]
  have := words_intercalate (fun w h => (hw w h).2) fun w h => (hw w h).1
  rw [show " ".toList = [' '] from rfl, this, List.map_map]
  simp

theorem postfix_rpnTokens (hb : isBlank x = false) (hd : x.isDigit = false) {e : Expr α}
    (he : e.Over x) : Postfix x (rpnTokens e.rpn) e := by
  rw [rpnTokens_rpn hb he, Postfix, List.forall₂_map_left_iff, List.forall₂_same]
  intro k hk
  exact Token.isClassOf_text hd (Expr.over_iff.1 he k hk)

/-- **Compiling undoes rendering**, on every stack: with room for the tree it is found again, with
less the stack overflows, and beyond what can be set aside nothing is compiled. -/
theorem compile_rpn (hb : isBlank x = false) (hd : x.isDigit = false) {e : Expr α} (he : e.Over x)
    (n : Nat) :
    compile ⟨x, n⟩ (rpnTokens e.rpn) =
      if Operands.maxCapacity < n then .error (.unmet ⟨n⟩)
      else if e.need ≤ n then .ok e
      else .error (.rejected (.stackOverflow n)) := by
  by_cases hn : Operands.maxCapacity < n
  · rw [if_pos hn, compile_of_maxCapacity_lt hn]
  rw [if_neg hn, compile_eq _ _ (Nat.not_lt.1 hn),
    Operands.complete_postorder (postfix_rpnTokens hb hd he)]
  split <;> rfl

/-- A compiled tree is found again under the same settings. -/
theorem compile_rpn_of_compile (hb : isBlank x = false) (hd : x.isDigit = false) {n : Nat}
    {ts : List String} {e : Expr α} (h : compile ⟨x, n⟩ ts = .ok e) :
    compile ⟨x, n⟩ (rpnTokens e.rpn) = .ok e := by
  obtain ⟨hn, h⟩ := compile_eq_ok_iff.1 h
  obtain ⟨hp, hneed⟩ := compileTokens_eq_ok_iff.1 h
  rw [compile_rpn hb hd hp.over, if_neg (Nat.not_lt.2 hn), if_pos hneed]

end Render

end Quadrature

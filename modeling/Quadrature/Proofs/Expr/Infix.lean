import Quadrature.Proofs.Rpn.Reparse
import Quadrature.Proofs.Text.Runs
import Quadrature.Text.Letter

/-!
# Infix texts are unambiguous

An infix text begins with a word, which may be empty, and the word ends at a parenthesis, at a space
or with the text. The word and the character behind it tell the four kinds of trees apart: only what
is applied to operands goes on with a parenthesis, and an operator has no word in front of it. So a
tree is found again at the beginning of every text that goes on as a text goes on behind an operand,
which settles by induction where the operands of an operator meet.

* `DelimitedLiteral`: what the texts of the numbers must be like.
* `Expr.toList_infixText`, `Expr.run_word`: the word in front of an infix text.
* `Expr.eq_of_append`: **a tree and what stands behind it, read off a text.**
* `Expr.infixText_inj`: **trees over doubles with the same text are the same.**
-/

namespace Quadrature

open Text

/-- A parenthesis or a space. -/
def isDelimiter (c : Char) : Bool := c == '(' || c == ')' || c == ' '

/-- **Texts of numbers that can stand in an infix text.** They differ for different numbers, hold no
delimiter, and are not the name of a variable. -/
class DelimitedLiteral (α : Type) [Literal α] : Prop where
  text_injective : Function.Injective (Literal.text : α → String)
  not_delimiter : ∀ k : α, ∀ c ∈ (Literal.text k).toList, isDelimiter c = false
  text_ne_letter : ∀ (k : α) {c : Char}, isLetter c = true → (Literal.text k).toList ≠ [c]

variable {α : Type}

theorem Func.name_injective : Function.Injective Func.name := by
  intro f g h
  have hname := congrArg Func.ofName? h
  rw [ofName?_name, ofName?_name] at hname
  exact Option.some.inj hname

theorem Func.not_delimiter (f : Func) : ∀ c ∈ f.name.toList, isDelimiter c = false := by
  cases f <;> simp [Func.name, isDelimiter]

theorem Op.symbol_injective : Function.Injective Op.symbol := by
  intro o p h
  have hsymbol := congrArg Op.ofSymbol? h
  rw [ofSymbol?_symbol, ofSymbol?_symbol] at hsymbol
  exact Option.some.inj hsymbol

theorem isDelimiter_of_isLetter {c : Char} (h : isLetter c = true) : isDelimiter c = false := by
  rw [← Bool.not_eq_true]
  intro hc
  simp only [isDelimiter, Bool.or_eq_true, beq_iff_eq] at hc
  rcases hc with (rfl | rfl) | rfl <;> exact absurd h (by decide +kernel)

/-- What may stand behind an operand: nothing, or what goes on with a closing parenthesis or a
space. -/
def BehindOperand (s : List Char) : Prop := ∀ c ∈ s.head?, c = ')' ∨ c = ' '

theorem behindOperand_nil : BehindOperand [] := by
  intro c hc
  cases hc

theorem behindOperand_cons {c : Char} (h : c = ')' ∨ c = ' ') (s : List Char) :
    BehindOperand (c :: s) := by
  intro d hd
  cases hd
  exact h

/-- Operands do not begin there. -/
theorem BehindOperand.ne_cons {s : List Char} (h : BehindOperand s) (t : List Char) :
    s ≠ '(' :: t := by
  rintro rfl
  exact absurd (h '(' rfl) (by decide)

theorem BehindOperand.isDelimiter {s : List Char} (h : BehindOperand s) :
    ∀ c ∈ s.head?, Quadrature.isDelimiter c = true := by
  intro c hc
  rcases h c hc with rfl | rfl <;> rfl

namespace Expr

/-- All names of variables in a tree are such. -/
def EachVariable (p : Char → Prop) : Expr α → Prop
  | var x => p x
  | const _ => True
  | func _ e => e.EachVariable p
  | op _ l r => l.EachVariable p ∧ r.EachVariable p

/-- They are letters. -/
def Lettered (e : Expr α) : Prop := e.EachVariable fun x => isLetter x = true

theorem EachVariable.imp {p q : Char → Prop} (hpq : ∀ x, p x → q x) {e : Expr α}
    (h : e.EachVariable p) : e.EachVariable q := by
  induction e with
  | var x => exact hpq x h
  | const => trivial
  | func f e ih => exact ih h
  | op o l r ihl ihr => exact ⟨ihl h.1, ihr h.2⟩

variable [Literal α]

/-- The word in front of an infix text. -/
def word : Expr α → List Char
  | var x => [x]
  | const k => (Literal.text k).toList
  | func f _ => f.name.toList
  | op _ _ _ => []

/-- The operands between parentheses, which follow that word. -/
def operands : Expr α → List Char
  | var _ => []
  | const _ => []
  | func _ e => '(' :: (e.infixText.toList ++ [')'])
  | op o l r =>
    '(' :: (l.infixText.toList ++ ' ' :: o.symbol :: ' ' :: (r.infixText.toList ++ [')']))

theorem toList_infixText (e : Expr α) : e.infixText.toList = e.word ++ e.operands := by
  cases e <;> simp [infixText, word, operands, Op.name]

variable [DelimitedLiteral α] {e e' : Expr α} {s s' : List Char}

/-- **The word ends at a delimiter.** -/
theorem run_word (he : e.Lettered) (hs : BehindOperand s) :
    Run (fun c => !isDelimiter c) e.word (e.operands ++ s) := by
  have hstops : ∀ c ∈ s.head?, (!isDelimiter c) = false := by
    intro c hc
    rw [hs.isDelimiter c hc]
    rfl
  cases e with
  | var x =>
    refine ⟨?_, hstops⟩
    intro c hc
    obtain rfl := List.mem_singleton.1 hc
    rw [isDelimiter_of_isLetter he]
    rfl
  | const k =>
    refine ⟨?_, hstops⟩
    intro c hc
    rw [DelimitedLiteral.not_delimiter k c hc]
    rfl
  | func f e =>
    refine Run.of_cons ?_ rfl
    intro c hc
    rw [f.not_delimiter c hc]
    rfl
  | op o l r =>
    refine Run.of_cons ?_ rfl
    intro c hc
    cases hc

theorem words_eq (he : e.Lettered) (he' : e'.Lettered) (hs : BehindOperand s)
    (hs' : BehindOperand s') (h : e.infixText.toList ++ s = e'.infixText.toList ++ s') :
    e.word = e'.word ∧ e.operands ++ s = e'.operands ++ s' := by
  rw [toList_infixText, toList_infixText, List.append_assoc, List.append_assoc] at h
  exact (run_word he hs).eq_of_append (run_word he' hs') h

/-- **A tree and what stands behind it** can be read off a text in one way only. -/
theorem eq_of_append (he : e.Lettered) (he' : e'.Lettered) (hs : BehindOperand s)
    (hs' : BehindOperand s') (h : e.infixText.toList ++ s = e'.infixText.toList ++ s') :
    e = e' ∧ s = s' := by
  induction e generalizing e' s s' with
  | var x =>
    obtain ⟨hword, hrest⟩ := words_eq he he' hs hs' h
    cases e' with
    | var y =>
      obtain rfl := (List.cons.inj hword).1
      exact ⟨rfl, hrest⟩
    | const k => exact absurd hword.symm (DelimitedLiteral.text_ne_letter k he)
    | func | op => exact absurd hrest (hs.ne_cons _)
  | const k =>
    obtain ⟨hword, hrest⟩ := words_eq he he' hs hs' h
    cases e' with
    | var y => exact absurd hword (DelimitedLiteral.text_ne_letter k he')
    | const k' =>
      obtain rfl := DelimitedLiteral.text_injective (String.toList_inj.1 hword)
      exact ⟨rfl, hrest⟩
    | func | op => exact absurd hrest (hs.ne_cons _)
  | func f e ih =>
    obtain ⟨hword, hrest⟩ := words_eq he he' hs hs' h
    cases e' with
    | var | const => exact absurd hrest.symm (hs'.ne_cons _)
    | func f' e' =>
      obtain rfl := Func.name_injective (String.toList_inj.1 hword)
      -- the operands are followed by the parenthesis that closes them
      have hoperand : e.infixText.toList ++ (')' :: s) = e'.infixText.toList ++ (')' :: s') := by
        simpa [operands] using hrest
      have hlettered' : e'.Lettered := he'
      obtain ⟨rfl, hclose⟩ := ih he hlettered' (behindOperand_cons (.inl rfl) s)
        (behindOperand_cons (.inl rfl) s') hoperand
      exact ⟨rfl, (List.cons.inj hclose).2⟩
    | op o l r => exact absurd hword f.toList_name_not_blank.1
  | op o l r ihl ihr =>
    obtain ⟨hword, hrest⟩ := words_eq he he' hs hs' h
    cases e' with
    | var | const => exact absurd hrest.symm (hs'.ne_cons _)
    | func f e => exact absurd hword.symm f.toList_name_not_blank.1
    | op o' l' r' =>
      have hleft : l.infixText.toList ++ (' ' :: o.symbol :: ' ' ::
            (r.infixText.toList ++ (')' :: s))) =
          l'.infixText.toList ++ (' ' :: o'.symbol :: ' ' ::
            (r'.infixText.toList ++ (')' :: s'))) := by
        simpa [operands] using hrest
      obtain ⟨rfl, hbehind⟩ := ihl he.1 he'.1 (behindOperand_cons (.inr rfl) _)
        (behindOperand_cons (.inr rfl) _) hleft
      simp only [List.cons.injEq, true_and] at hbehind
      obtain ⟨hsymbol, hright⟩ := hbehind
      obtain rfl := Op.symbol_injective hsymbol
      obtain ⟨rfl, hclose⟩ := ihr he.2 he'.2 (behindOperand_cons (.inl rfl) s)
        (behindOperand_cons (.inl rfl) s') hright
      exact ⟨rfl, (List.cons.inj hclose).2⟩

end Expr

/-! ### Doubles -/

theorem not_isLetter_of_isDigit {c : Char} (h : c.isDigit = true) : isLetter c = false := by
  have hdigits : ∀ n : Fin 10, isLetter (Char.ofNat (48 + n)) = false := by decide +kernel
  simp only [Char.isDigit, Bool.and_eq_true, decide_eq_true_eq, ge_iff_le, UInt32.le_iff_toNat_le]
    at h
  have hlow : 48 ≤ c.toNat := h.1
  have hhigh : c.toNat ≤ 57 := h.2
  have hc := hdigits ⟨c.toNat - 48, by omega⟩
  rwa [Nat.add_sub_cancel' hlow, Char.ofNat_toNat] at hc

theorem not_isDelimiter_of_isDigit {c : Char} (h : c.isDigit = true) : isDelimiter c = false := by
  rw [← Bool.not_eq_true]
  intro hc
  simp only [isDelimiter, Bool.or_eq_true, beq_iff_eq] at hc
  rcases hc with (rfl | rfl) | rfl <;> exact absurd h (by decide)

instance : DelimitedLiteral Float where
  text_injective := by
    intro k m h
    have hread := congrArg (Literal.read? (α := Float)) h
    rw [LawfulLiteral.read?_text, LawfulLiteral.read?_text] at hread
    exact Option.some.inj hread
  not_delimiter := by
    intro k c hc
    have hmarks : ∀ d ∈ ['-', '.'], isDelimiter d = false := by simp [isDelimiter]
    rcases Decimal.text_form k with ⟨negative, whole, places, hw, hp, -, htext⟩ | hword
    · have hmem : c ∈ Decimal.signed negative (Decimal.withPlaces whole places) := htext ▸ hc
      rcases Decimal.mem_signed_withPlaces hw hp hmem with hdigit | hmark
      · exact not_isDelimiter_of_isDigit hdigit
      · exact hmarks c hmark
    · have hwords : ∀ w ∈ ["NaN".toList, "inf".toList, "-inf".toList], ∀ d ∈ w,
          isDelimiter d = false := by simp [isDelimiter]
      exact hwords _ hword c hc
  text_ne_letter := by
    intro k c hc h
    have hread := LawfulLiteral.read?_text k
    rw [← String.toList_singleton, String.toList_inj] at h
    rw [h] at hread
    rw [not_isLetter_of_isDigit (LawfulLiteral.isDigit_of_read? hread)] at hc
    cases hc

/-- **Infix texts are unambiguous.** Trees over doubles whose variables all have the same letter for
a name are equal if their texts are, whatever their depth; a constant that is not a number equals
itself there, and the two zeros differ. -/
theorem infixText_inj {x : Char} (hx : isLetter x = true) {e e' : Expr Float}
    (he : e.EachVariable (· = x)) (he' : e'.EachVariable (· = x)) :
    e.infixText = e'.infixText ↔ e = e' := by
  have hlettered : ∀ {t : Expr Float}, t.EachVariable (· = x) → t.Lettered := by
    intro t ht
    refine ht.imp ?_
    rintro y rfl
    exact hx
  constructor
  · intro h
    exact (Expr.eq_of_append (hlettered he) (hlettered he') behindOperand_nil behindOperand_nil
      (by rw [h])).1
  · rintro rfl
    rfl

/-- The two zeros behind a minus sign. -/
theorem infixText_ne_zeros :
    isLetter 'x' = true ∧
      (Expr.op .sub (.var 'x') (.const (0.0 : Float))).EachVariable (· = 'x') ∧
      (Expr.op .sub (.var 'x') (.const (-0.0 : Float))).EachVariable (· = 'x') ∧
      (Expr.op .sub (.var 'x') (.const (0.0 : Float))).infixText ≠
        (Expr.op .sub (.var 'x') (.const (-0.0 : Float))).infixText := by
  have hx : isLetter 'x' = true := by decide +kernel
  have hzero : (Expr.op .sub (.var 'x') (.const (0.0 : Float))).EachVariable (· = 'x') :=
    ⟨rfl, trivial⟩
  have hnegative : (Expr.op .sub (.var 'x') (.const (-0.0 : Float))).EachVariable (· = 'x') :=
    ⟨rfl, trivial⟩
  refine ⟨hx, hzero, hnegative, ?_⟩
  rw [ne_eq, infixText_inj hx hzero hnegative]
  decide +kernel

-- a variable that is no letter may be spelt like a constant
example : (Expr.var '2' : Expr Float).infixText = (Expr.const 2.0).infixText := by decide +kernel

end Quadrature

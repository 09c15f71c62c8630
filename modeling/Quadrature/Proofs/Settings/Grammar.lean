import Quadrature.Proofs.Text.Runs
import Quadrature.Settings.Document

/-!
# The grammar of settings documents

The grammar is stated without its rules, as a relation between a text, what stands at the beginning
of it, and the rest. A title and a key are the same kind of word, and nothing in the grammar says
where a section ends: the rules take pairs as long as pairs follow. That reads every text of the
grammar, because nothing begins both like a pair and like a section. Behind the word there is a
colon in the one case and a further word in the other.

* `PairAt`, `SectionAt`, `Chain`: the grammar.
* `pair_eq_ok_iff`, `titled_eq_ok_iff`, `many1_eq_ok_iff`: what the rules read.
* `many1_titled_eq_ok_iff`: **taking as much as follows reads exactly the texts of the grammar.**
-/

namespace Quadrature.Document

open Text

/-! ### The grammar -/

/-- A maximal word of letters, digits and underscores that does not begin with a digit. -/
structure IsIdentifier (w rest : List Char) : Prop where
  initial : ∃ c ∈ w.head?, isInitial c = true
  run : Run isInner w rest

/-- A maximal word without blanks. -/
structure IsValue (w rest : List Char) : Prop where
  ne_nil : w ≠ []
  run : Run (fun c => !isBlank c) w rest

/-- Gaps, a key, a colon with spaces around it and a value at the beginning of a text. -/
inductive PairAt : List Char → List Char × List Char → List Char → Prop
  | intro {gap key before after value rest : List Char} (hgap : ∀ c ∈ gap, isGap c = true)
    (hkey : IsIdentifier key (before ++ ':' :: (after ++ (value ++ rest))))
    (hbefore : ∀ c ∈ before, isSpace c = true) (hafter : ∀ c ∈ after, isSpace c = true)
    (hvalue : IsValue value rest) :
    PairAt (gap ++ (key ++ (before ++ ':' :: (after ++ (value ++ rest))))) (key, value) rest

/-- One thing after another at the beginning of a text. -/
inductive Chain {β : Type} (At : List Char → β → List Char → Prop) :
    List Char → List β → List Char → Prop
  | nil (cs : List Char) : Chain At cs [] cs
  | cons {cs mid rest : List Char} {b : β} {bs : List β} (h : At cs b mid)
    (ht : Chain At mid bs rest) : Chain At cs (b :: bs) rest

/-- A pair under a title. -/
def settingOf (title : List Char) (kv : List Char × List Char) : Setting :=
  ⟨String.ofList title, String.ofList kv.1, String.ofList kv.2⟩

/-- Gaps, a title and one or more pairs at the beginning of a text. -/
inductive SectionAt : List Char → List Setting → List Char → Prop
  | intro {gap title mid rest : List Char} {pairs : List (List Char × List Char)}
    (hgap : ∀ c ∈ gap, isGap c = true) (htitle : IsIdentifier title mid)
    (hne : pairs ≠ []) (hpairs : Chain PairAt mid pairs rest) :
    SectionAt (gap ++ (title ++ mid)) (pairs.map (settingOf title)) rest

/-- What a rule takes off a text. -/
def Reads {β : Type} (rule : List Char → Step (β × List Char)) (cs : List Char) (b : β)
    (rest : List Char) : Prop :=
  rule cs = .ok (b, rest)

/-- Where a rule breaks off. -/
def Breaks {β : Type} (rule : List Char → Step β) (cs : List Char) : Prop :=
  ∃ e, rule cs = .error e

variable {cs rest w mid : List Char}

/-! ### Characters -/

theorem toNat_of_isInitial {c : Char} (h : isInitial c = true) : 65 ≤ c.toNat ∧ c.toNat ≤ 122 := by
  unfold isInitial Char.isAlpha Char.isUpper Char.isLower at h
  simp only [Bool.or_eq_true, Bool.and_eq_true, decide_eq_true_eq, beq_iff_eq, ge_iff_le,
    UInt32.le_iff_toNat_le] at h
  rcases h with (⟨h, h'⟩ | ⟨h, h'⟩) | rfl
  · exact ⟨h, Nat.le_trans h' (by decide)⟩
  · exact ⟨Nat.le_trans (by decide) h, h'⟩
  · decide

theorem isBlank_of_isInitial {c : Char} (h : isInitial c = true) : isBlank c = false := by
  have h := toNat_of_isInitial h
  unfold isBlank
  simp only [Bool.or_eq_false_iff, Bool.and_eq_false_iff, decide_eq_false_iff_not,
    beq_eq_false_iff_ne]
  omega

theorem isGap_of_isInitial {c : Char} (h : isInitial c = true) : isGap c = false := by
  have hblank := isBlank_of_isInitial h
  by_contra hgap
  rw [isBlank_of_isGap (Bool.not_eq_false _ ▸ hgap)] at hblank
  cases hblank

theorem isGap_of_isSpace {c : Char} (h : isSpace c = true) : isGap c = true := by
  unfold isGap
  rw [h]
  rfl

theorem isInner_of_isInitial {c : Char} (h : isInitial c = true) : isInner c = true := by
  unfold isInitial at h
  unfold isInner Char.isAlphanum
  simp only [Bool.or_eq_true] at h ⊢
  tauto

/-! ### Words and colons -/

theorem IsIdentifier.exists_cons (h : IsIdentifier w rest) :
    ∃ c ds, w ++ rest = c :: ds ∧ isInitial c = true := by
  obtain ⟨c, hc, hinitial⟩ := h.initial
  cases w with
  | nil => cases hc
  | cons d w =>
    cases hc
    exact ⟨c, w ++ rest, rfl, hinitial⟩

/-- Gaps end where a word begins. -/
theorem IsIdentifier.dropWhile_gap {gap : List Char} (h : IsIdentifier w rest)
    (hgap : ∀ c ∈ gap, isGap c = true) : (gap ++ (w ++ rest)).dropWhile isGap = w ++ rest := by
  obtain ⟨c, ds, heq, hc⟩ := h.exists_cons
  rw [heq]
  exact (Run.of_cons hgap (isGap_of_isInitial hc)).dropWhile_eq

theorem identifier_cons (c : Char) (ds : List Char) : identifier (c :: ds) =
    if isInitial c = true then .ok ((c :: ds).span isInner) else .error ⟨c :: ds, .tag⟩ := rfl

theorem value_cons (c : Char) (ds : List Char) : value (c :: ds) =
    if isBlank c = true then .error ⟨c :: ds, .value⟩
    else .ok ((c :: ds).span fun c => !isBlank c) := rfl

theorem identifier_eq_ok_iff :
    identifier cs = .ok (w, rest) ↔ cs = w ++ rest ∧ IsIdentifier w rest := by
  constructor
  · intro h
    unfold identifier at h
    split at h
    · rename_i c ds
      split at h
      · rename_i hc
        obtain ⟨heq, hrun⟩ := span_eq_iff.1 (Except.ok.inj h)
        refine ⟨heq, ?_, hrun⟩
        -- the word is not empty, for its rest does not begin with its first letter
        cases w with
        | nil =>
          rw [List.nil_append] at heq
          have hstop := hrun.stops c (heq ▸ rfl)
          rw [isInner_of_isInitial hc] at hstop
          cases hstop
        | cons d w =>
          cases heq
          exact ⟨c, rfl, hc⟩
      · cases h
    · cases h
  · rintro ⟨rfl, h⟩
    obtain ⟨c, ds, heq, hc⟩ := h.exists_cons
    have hspan := span_eq_iff.2 ⟨rfl, h.run⟩
    rw [heq] at hspan ⊢
    rw [identifier_cons, if_pos hc, hspan]

theorem value_eq_ok_iff : value cs = .ok (w, rest) ↔ cs = w ++ rest ∧ IsValue w rest := by
  constructor
  · intro h
    unfold value at h
    split at h
    · rename_i c ds
      split at h
      · cases h
      · rename_i hc
        obtain ⟨heq, hrun⟩ := span_eq_iff.1 (Except.ok.inj h)
        refine ⟨heq, ?_, hrun⟩
        rintro rfl
        rw [List.nil_append] at heq
        have hstop := hrun.stops c (heq ▸ rfl)
        rw [Bool.not_eq_false'] at hstop
        exact hc hstop
    · cases h
  · rintro ⟨rfl, hne, hrun⟩
    have hspan := span_eq_iff.2 ⟨rfl, hrun⟩
    cases w with
    | nil => exact absurd rfl hne
    | cons c w =>
      have hc := hrun.all c List.mem_cons_self
      rw [Bool.not_eq_true'] at hc
      rw [List.cons_append, value_cons, hc, if_neg Bool.false_ne_true, ← List.cons_append, hspan]

theorem colon_eq_ok_iff : colon cs = .ok rest ↔
    ∃ before after, cs = before ++ ':' :: (after ++ rest) ∧ (∀ c ∈ before, isSpace c = true) ∧
      Run isSpace after rest := by
  constructor
  · intro h
    unfold colon at h
    split at h
    · rename_i ds hcs
      obtain ⟨before, rfl, hbefore⟩ := dropWhile_eq_iff.1 hcs
      obtain ⟨after, rfl, hafter⟩ := dropWhile_eq_iff.1 (Except.ok.inj h)
      exact ⟨before, after, rfl, hbefore.all, hafter⟩
    · cases h
  · rintro ⟨before, after, rfl, hbefore, hafter⟩
    unfold colon
    rw [(Run.of_cons hbefore (by decide)).dropWhile_eq]
    exact congrArg Except.ok hafter.dropWhile_eq

/-! ### Pairs -/

theorem bind_eq_ok {ε α β : Type} {x : Except ε α} {f : α → Except ε β} {b : β}
    (h : (x >>= f) = .ok b) : ∃ a, x = .ok a ∧ f a = .ok b := by
  cases x with
  | error e => cases h
  | ok a => exact ⟨a, rfl, h⟩

theorem IsValue.run_space (h : IsValue w rest) {after : List Char}
    (hafter : ∀ c ∈ after, isSpace c = true) : Run isSpace after (w ++ rest) := by
  cases w with
  | nil => exact absurd rfl h.ne_nil
  | cons c w =>
    refine Run.of_cons hafter ?_
    have hc := h.run.all c List.mem_cons_self
    by_contra hspace
    rw [isBlank_of_isSpace (Bool.not_eq_false _ ▸ hspace)] at hc
    cases hc

/-- **A pair is read exactly where there is one.** -/
theorem pair_eq_ok_iff {kv : List Char × List Char} :
    pair cs = .ok (kv, rest) ↔ PairAt cs kv rest := by
  constructor
  · intro h
    unfold pair at h
    obtain ⟨⟨key, r⟩, hident, h⟩ := bind_eq_ok h
    obtain ⟨r', hcolon, h⟩ := bind_eq_ok h
    obtain ⟨⟨v, r''⟩, hword, h⟩ := bind_eq_ok h
    cases h
    obtain ⟨hcs, hkey⟩ := identifier_eq_ok_iff.1 hident
    obtain ⟨before, after, rfl, hbefore, hafter⟩ := colon_eq_ok_iff.1 hcolon
    obtain ⟨rfl, hvalue⟩ := value_eq_ok_iff.1 hword
    obtain ⟨gap, rfl, hgap⟩ := dropWhile_eq_iff.1 hcs
    exact .intro hgap.all hkey hbefore hafter.all hvalue
  · rintro ⟨hgap, hkey, hbefore, hafter, hvalue⟩
    unfold pair
    rw [hkey.dropWhile_gap hgap, identifier_eq_ok_iff.2 ⟨rfl, hkey⟩]
    change (colon _ >>= _) = _
    rw [colon_eq_ok_iff.2 ⟨_, _, rfl, hbefore, hvalue.run_space hafter⟩]
    change (value _ >>= _) = _
    rw [value_eq_ok_iff.2 ⟨rfl, hvalue⟩]
    rfl

theorem PairAt.length_lt {kv : List Char × List Char} (h : PairAt cs kv rest) :
    rest.length < cs.length := by
  cases h
  simp only [List.length_append, List.length_cons]
  omega

/-- Where there is a pair there is no colon yet. -/
theorem PairAt.breaks_colon {kv : List Char × List Char} (h : PairAt cs kv rest) :
    Breaks colon cs := by
  cases hcolon : colon cs with
  | error e => exact ⟨e, hcolon⟩
  | ok r =>
    exfalso
    obtain ⟨before, after, heq, hbefore, -⟩ := colon_eq_ok_iff.1 hcolon
    -- behind the gaps a colon and the first letter of a key would be in the same place
    have hdrop : cs.dropWhile isGap = ':' :: (after ++ r) := by
      rw [heq]
      exact (Run.of_cons (fun c hc => isGap_of_isSpace (hbefore c hc)) (by decide)).dropWhile_eq
    cases h with
    | intro hgap hkey =>
      rw [hkey.dropWhile_gap hgap] at hdrop
      obtain ⟨c, ds, hkeyEq, hc⟩ := hkey.exists_cons
      cases hkeyEq.symm.trans hdrop
      exact absurd hc (by decide)

/-! ### Repetition -/

namespace Chain

variable {β : Type} {At At' : List Char → β → List Char → Prop} {bs : List β}

theorem imp (h : Chain At cs bs rest) (himp : ∀ cs b rest, At cs b rest → At' cs b rest) :
    Chain At' cs bs rest := by
  induction h with
  | nil cs => exact .nil cs
  | cons hb _ ih => exact .cons (himp _ _ _ hb) ih

theorem length_le (h : Chain At cs bs rest)
    (hlt : ∀ cs b rest, At cs b rest → rest.length < cs.length) : rest.length ≤ cs.length := by
  induction h with
  | nil cs => exact Nat.le_refl _
  | cons hb _ ih => exact Nat.le_trans ih (Nat.le_of_lt (hlt _ _ _ hb))

end Chain

section Repetition

variable {β : Type} {rule : List Char → Step (β × List Char)} {bs : List β}

/-- A rule that takes something off whatever it reads. -/
def Consumes (rule : List Char → Step (β × List Char)) : Prop :=
  ∀ cs b rest, Reads rule cs b rest → rest.length < cs.length

theorem exists_chain (hrule : Consumes rule) (cs : List Char) :
    ∃ bs rest, Chain (Reads rule) cs bs rest ∧ Breaks rule rest := by
  cases h : rule cs with
  | error e => exact ⟨[], cs, .nil cs, e, h⟩
  | ok r =>
    obtain ⟨b, mid⟩ := r
    have := hrule cs b mid h
    obtain ⟨bs, rest, hchain, hbreaks⟩ := exists_chain hrule mid
    exact ⟨b :: bs, rest, .cons h hchain, hbreaks⟩
termination_by cs.length

theorem many_of_chain (hrule : Consumes rule) (h : Chain (Reads rule) cs bs rest)
    (hrest : Breaks rule rest) : many rule cs = (bs, rest) := by
  induction h with
  | nil cs =>
    obtain ⟨e, he⟩ := hrest
    rw [many, he]
  | cons hb _ ih =>
    rw [many, hb]
    dsimp only
    rw [if_pos (hrule _ _ _ hb), ih hrest]

/-- **A repetition takes as much as follows.** -/
theorem many_eq_iff (hrule : Consumes rule) :
    many rule cs = (bs, rest) ↔ Chain (Reads rule) cs bs rest ∧ Breaks rule rest := by
  constructor
  · intro h
    obtain ⟨bs', rest', hchain, hbreaks⟩ := exists_chain hrule cs
    cases h.symm.trans (many_of_chain hrule hchain hbreaks)
    exact ⟨hchain, hbreaks⟩
  · rintro ⟨hchain, hbreaks⟩
    exact many_of_chain hrule hchain hbreaks

theorem many1_eq_ok_iff (hrule : Consumes rule) : many1 rule cs = .ok (bs, rest) ↔
    bs ≠ [] ∧ Chain (Reads rule) cs bs rest ∧ Breaks rule rest := by
  constructor
  · intro h
    unfold many1 at h
    obtain ⟨⟨b, mid⟩, hb, h⟩ := bind_eq_ok h
    dsimp only at h
    cases h
    obtain ⟨hchain, hbreaks⟩ := (many_eq_iff hrule).1 (Prod.eta (many rule mid)).symm
    exact ⟨List.cons_ne_nil _ _, .cons hb hchain, hbreaks⟩
  · rintro ⟨hne, hchain, hbreaks⟩
    cases hchain with
    | nil => exact absurd rfl hne
    | cons hb ht =>
      unfold many1
      rw [hb]
      dsimp only [bind, Except.bind]
      rw [many_of_chain hrule ht hbreaks]
      rfl

end Repetition

/-! ### Sections -/

theorem reads_pair : Reads pair = PairAt := by
  funext cs kv rest
  exact propext pair_eq_ok_iff

theorem consumes_pair : Consumes pair := by
  intro cs kv rest h
  exact (pair_eq_ok_iff.1 h).length_lt

/-- **A section is read where there is one**, with all the pairs that follow. -/
theorem titled_eq_ok_iff {settings : List Setting} :
    titled cs = .ok (settings, rest) ↔ SectionAt cs settings rest ∧ Breaks pair rest := by
  constructor
  · intro h
    unfold titled at h
    obtain ⟨⟨title, mid⟩, hident, h⟩ := bind_eq_ok h
    obtain ⟨⟨pairs, r⟩, hpairs, h⟩ := bind_eq_ok h
    cases h
    obtain ⟨hcs, htitle⟩ := identifier_eq_ok_iff.1 hident
    obtain ⟨hne, hchain, hbreaks⟩ := (many1_eq_ok_iff consumes_pair).1 hpairs
    obtain ⟨gap, rfl, hgap⟩ := dropWhile_eq_iff.1 hcs
    rw [reads_pair] at hchain
    exact ⟨.intro hgap.all htitle hne hchain, hbreaks⟩
  · rintro ⟨⟨hgap, htitle, hne, hpairs⟩, hbreaks⟩
    rw [← reads_pair] at hpairs
    unfold titled
    rw [htitle.dropWhile_gap hgap, identifier_eq_ok_iff.2 ⟨rfl, htitle⟩]
    change (many1 pair _ >>= _) = _
    rw [(many1_eq_ok_iff consumes_pair).2 ⟨hne, hpairs, hbreaks⟩]
    rfl

theorem SectionAt.length_lt {settings : List Setting} (h : SectionAt cs settings rest) :
    rest.length < cs.length := by
  obtain ⟨-, -, hne, hpairs⟩ := h
  cases hpairs with
  | nil => exact absurd rfl hne
  | cons hkv ht =>
    have hle := ht.length_le fun _ _ _ h => h.length_lt
    have hlt := hkv.length_lt
    simp only [List.length_append]
    omega

theorem consumes_titled : Consumes titled := by
  intro cs settings rest h
  exact (titled_eq_ok_iff.1 h).1.length_lt

/-- **Nothing begins both like a section and like a pair.** -/
theorem SectionAt.breaks_pair {settings : List Setting} (h : SectionAt cs settings rest) :
    Breaks pair cs := by
  obtain ⟨hgap, htitle, hne, hpairs⟩ := h
  cases hpairs with
  | nil => exact absurd rfl hne
  | cons hkv _ =>
    obtain ⟨e, he⟩ := hkv.breaks_colon
    refine ⟨e, ?_⟩
    unfold pair
    rw [htitle.dropWhile_gap hgap, identifier_eq_ok_iff.2 ⟨rfl, htitle⟩]
    change (colon _ >>= _) = _
    rw [he]
    rfl

/-! ### Blanks -/

theorem identifier_of_blank (h : blank cs = true) : Breaks identifier (cs.dropWhile isGap) := by
  cases hword : identifier (cs.dropWhile isGap) with
  | error e => exact ⟨e, hword⟩
  | ok r =>
    exfalso
    obtain ⟨w, rest⟩ := r
    obtain ⟨hcs, hword⟩ := identifier_eq_ok_iff.1 hword
    obtain ⟨c, ds, heq, hc⟩ := hword.exists_cons
    have hmem : c ∈ cs := by
      refine List.dropWhile_subset isGap ?_
      rw [hcs, heq]
      exact List.mem_cons_self
    have hblank := List.all_eq_true.1 h c hmem
    rw [isBlank_of_isInitial hc] at hblank
    cases hblank

theorem pair_of_blank (h : blank cs = true) : Breaks pair cs := by
  obtain ⟨e, he⟩ := identifier_of_blank h
  unfold Breaks pair
  rw [he]
  exact ⟨e, rfl⟩

theorem titled_of_blank (h : blank cs = true) : Breaks titled cs := by
  obtain ⟨e, he⟩ := identifier_of_blank h
  unfold Breaks titled
  rw [he]
  exact ⟨e, rfl⟩

/-- Sections in front of blanks are read one after another; what begins there is no pair. -/
theorem Chain.titled {sections : List (List Setting)} (h : Chain SectionAt cs sections rest)
    (hrest : blank rest = true) : Chain (Reads titled) cs sections rest ∧ Breaks pair cs := by
  induction h with
  | nil cs => exact ⟨.nil cs, pair_of_blank hrest⟩
  | cons hb _ ih =>
    obtain ⟨hchain, hbreaks⟩ := ih hrest
    exact ⟨.cons (titled_eq_ok_iff.2 ⟨hb, hbreaks⟩) hchain, hb.breaks_pair⟩

/-- **The texts that are read** as sections and blanks are those of the grammar. -/
theorem many1_titled_eq_ok_iff {sections : List (List Setting)} (hrest : blank rest = true) :
    many1 titled cs = .ok (sections, rest) ↔ sections ≠ [] ∧ Chain SectionAt cs sections rest := by
  rw [many1_eq_ok_iff consumes_titled]
  constructor
  · rintro ⟨hne, hchain, -⟩
    exact ⟨hne, hchain.imp fun _ _ _ h => (titled_eq_ok_iff.1 h).1⟩
  · rintro ⟨hne, hchain⟩
    exact ⟨hne, (hchain.titled hrest).1, titled_of_blank hrest⟩

theorem not_blank_of_chain {sections : List (List Setting)} (hne : sections ≠ [])
    (h : Chain SectionAt cs sections rest) : ¬ blank cs = true := by
  intro hblank
  obtain ⟨e, he⟩ := identifier_of_blank hblank
  cases h with
  | nil => exact hne rfl
  | cons hb _ =>
    obtain ⟨hgap, htitle, -⟩ := hb
    rw [htitle.dropWhile_gap hgap, identifier_eq_ok_iff.2 ⟨rfl, htitle⟩] at he
    cases he

end Quadrature.Document

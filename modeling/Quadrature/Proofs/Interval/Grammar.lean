import Quadrature.Interval
import Quadrature.Proofs.Decimal.Numerals
import Quadrature.Proofs.Double.Value

/-!
# The grammar of interval lines

An interval line is stated as it is written: marks and bounds with gaps between them. What is read
of a line is decided by its form first and by the values of its bounds second.

* `UndefinedText`, `BoundText`, `BoundsText`: the two forms of a line.
* `isUndefined_iff`, `bounds?_eq_some_iff`: **which lines have these forms.**
* `Reading`, `read_eq_iff`: **what is read of every text.**
-/

namespace Quadrature.Interval

open Text Decimal Double

/-! ### The grammar -/

/-- A run of gaps. -/
def Gaps (g : List Char) : Prop := ∀ c ∈ g, isGap c = true

/-- A word for a value that is not finite, in any case. -/
def IsWord (w : List Char) : Prop := lowerAscii w ∈ ["nan".toList, "infinity".toList, "inf".toList]

/-- A bound as it is written: a numeral or, without a sign, a word. Its value is that of its text as
a double. -/
structure BoundText (w : List Char) (x : Float) : Prop where
  form : (∃ n, NumeralText w n) ∨ IsWord w
  value : readDouble? (String.ofList w) = some x

/-- `[ ; ]` with gaps anywhere. -/
inductive UndefinedText : List Char → Prop
  | intro {g₁ g₂ g₃ g₄ : List Char} (h₁ : Gaps g₁) (h₂ : Gaps g₂) (h₃ : Gaps g₃) (h₄ : Gaps g₄) :
    UndefinedText (g₁ ++ '[' :: (g₂ ++ ';' :: (g₃ ++ ']' :: g₄)))

/-- `[start ; stop]` with gaps anywhere but inside of the bounds. -/
inductive BoundsText : List Char → Float → Float → Prop
  | intro {g₁ g₂ g₃ g₄ g₅ g₆ v w : List Char} {start stop : Float} (h₁ : Gaps g₁) (h₂ : Gaps g₂)
    (hv : BoundText v start) (h₃ : Gaps g₃) (h₄ : Gaps g₄) (hw : BoundText w stop) (h₅ : Gaps g₅)
    (h₆ : Gaps g₆) :
    BoundsText (g₁ ++ '[' :: (g₂ ++ (v ++ (g₃ ++ ';' :: (g₄ ++ (w ++ (g₅ ++ ']' :: g₆))))))) start stop

variable {cs rest g w : List Char} {x : Float}

/-! ### Gaps and marks -/

theorem eq_of_isGap {c : Char} (h : isGap c = true) :
    c = ' ' ∨ c = '\t' ∨ c = '\r' ∨ c = '\n' := by
  simpa [isGap, isSpace, or_assoc] using h

theorem skipGaps_append {c : Char} (hg : Gaps g) (hc : isGap c = false) :
    skipGaps (g ++ c :: rest) = c :: rest :=
  (Run.of_cons hg hc).dropWhile_eq

theorem exists_of_skipGaps (h : skipGaps cs = rest) : ∃ g, Gaps g ∧ cs = g ++ rest := by
  obtain ⟨g, rfl, hrun⟩ := dropWhile_eq_iff.1 h
  exact ⟨g, hrun.all, rfl⟩

theorem skipGaps_isEmpty_iff : (skipGaps cs).isEmpty = true ↔ Gaps cs := by
  rw [List.isEmpty_iff]
  constructor
  · intro h
    obtain ⟨g, hg, rfl⟩ := exists_of_skipGaps h
    rwa [List.append_nil]
  · intro h
    exact List.dropWhile_eq_nil_iff.2 h

/-- **A mark** that has to come next is found behind gaps. -/
theorem mark?_append {c : Char} (hc : isGap c = false) (hg : Gaps g) :
    mark? c (g ++ c :: rest) = some rest := by
  unfold mark?
  rw [skipGaps_append hg hc]
  exact if_pos rfl

theorem exists_of_mark? {c : Char} (h : mark? c cs = some rest) :
    ∃ g, Gaps g ∧ cs = g ++ c :: rest := by
  unfold mark? at h
  split at h
  · rename_i d ds hskip
    split at h
    · rename_i heq
      cases h
      obtain ⟨g, hg, rfl⟩ := exists_of_skipGaps hskip
      exact ⟨g, hg, by rw [heq]⟩
    · cases h
  · cases h

/-! ### Words -/

/-- What follows a bound: a gap or the next mark. -/
def EndsBound (cs : List Char) : Prop :=
  ∀ c ∈ cs.head?, isGap c = true ∨ c = ';' ∨ c = ']'

theorem endsBound_mark {c : Char} (hc : c = ';' ∨ c = ']') (hg : Gaps g) :
    EndsBound (g ++ c :: rest) := by
  intro d hd
  cases g with
  | nil =>
    cases hd
    exact .inr hc
  | cons e g =>
    cases hd
    exact .inl (hg _ List.mem_cons_self)

theorem eq_of_endsBound {c : Char} (h : EndsBound (c :: rest)) :
    (c = ' ' ∨ c = '\t' ∨ c = '\r' ∨ c = '\n') ∨ c = ';' ∨ c = ']' := by
  rcases h c rfl with hgap | hmark
  · exact .inl (eq_of_isGap hgap)
  · exact .inr hmark

theorem EndsBound.endsNumeral (h : EndsBound rest) : EndsNumeral rest := by
  intro c hc
  cases rest with
  | nil => cases hc
  | cons d rest =>
    cases hc
    rcases eq_of_endsBound h with (rfl | rfl | rfl | rfl) | rfl | rfl <;> decide

/-- What follows a word does not prolong it. -/
theorem EndsBound.take_ne (h : EndsBound rest) (n : ℕ) (ds : List Char) :
    (lowerAscii rest).take n ≠ 'i' :: ds := by
  intro heq
  cases rest with
  | nil =>
    rw [lowerAscii, List.map_nil, List.take_nil] at heq
    cases heq
  | cons d rest =>
    -- gaps and marks are no letters
    have hlower : d.toLower ≠ 'i' := by
      rcases eq_of_endsBound h with (rfl | rfl | rfl | rfl) | rfl | rfl <;> decide
    cases n with
    | zero => cases heq
    | succ n => exact hlower (List.cons.inj heq).1

theorem lowerAscii_take (cs : List Char) (n : ℕ) :
    lowerAscii (cs.take n) = (lowerAscii cs).take n := List.map_take

theorem lowerAscii_append (cs ds : List Char) :
    lowerAscii (cs ++ ds) = lowerAscii cs ++ lowerAscii ds := List.map_append

theorem length_of_lowerAscii {s : List Char} (h : lowerAscii w = s) : w.length = s.length := by
  rw [← h]
  exact (List.length_map _).symm

/-- A word begins with one of two letters. -/
theorem IsWord.exists_cons (h : IsWord w) :
    ∃ c ds, w = c :: ds ∧ (c.toLower = 'n' ∨ c.toLower = 'i') := by
  cases w with
  | nil =>
    have hnil : ¬ IsWord [] := by
      unfold IsWord
      decide
    exact absurd h hnil
  | cons c ds =>
    refine ⟨c, ds, rfl, ?_⟩
    unfold IsWord lowerAscii at h
    simp only [List.map_cons, List.mem_cons, List.not_mem_nil, or_false] at h
    rcases h with h | h | h
    · exact .inl (List.cons.inj h).1
    · exact .inr (List.cons.inj h).1
    · exact .inr (List.cons.inj h).1

/-- **A word that does not go on** is read whole. -/
theorem word?_append (h : IsWord w) (hr : EndsBound rest) :
    ∃ x, special? w = some x ∧ word? (w ++ rest) = some (x, rest) := by
  unfold IsWord at h
  simp only [List.mem_cons, List.not_mem_nil, or_false] at h
  -- the short form of infinity is looked for last, and here the long one is not there
  have hrest := hr.take_ne 5 ['n', 'i', 't', 'y']
  rcases h with h | h | h
  · have hlen : w.length = 3 := length_of_lowerAscii h
    simp [word?, special?, specials, lowerAscii_take, lowerAscii_append, h, ← hlen]
  · have hlen : w.length = 8 := length_of_lowerAscii h
    simp [word?, special?, specials, lowerAscii_take, lowerAscii_append, h, ← hlen]
  · have hlen : w.length = 3 := length_of_lowerAscii h
    simp [word?, special?, specials, lowerAscii_take, lowerAscii_append, h, hrest, ← hlen]

theorem exists_of_word? (h : word? cs = some (x, rest)) :
    ∃ w, IsWord w ∧ special? w = some x ∧ cs = w ++ rest := by
  obtain ⟨s, hs, hfound⟩ := List.exists_of_findSome?_eq_some h
  simp only at hfound
  split at hfound
  · rename_i hword
    cases hfound
    refine ⟨_, ?_, ?_, (List.take_append_drop s.1.toList.length cs).symm⟩
    · unfold IsWord
      rw [hword]
      unfold specials at hs
      simp only [List.mem_cons, List.not_mem_nil, or_false] at hs
      rcases hs with rfl | rfl | rfl <;> decide
    · unfold special?
      rw [hword]
      unfold specials at hs ⊢
      simp only [List.mem_cons, List.not_mem_nil, or_false] at hs
      rcases hs with rfl | rfl | rfl <;> rfl
  · cases hfound

/-- The first letter of a word is neither a digit, a point, a sign, a gap nor a mark. -/
theorem ne_of_toLower {c : Char} (h : c.toLower = 'n' ∨ c.toLower = 'i') :
    c.isDigit = false ∧ c ≠ '.' ∧ c ≠ '-' ∧ c ≠ '+' ∧ c ≠ ';' ∧ isGap c = false := by
  have hdigit : ¬ c.isDigit = true := by
    intro hdigit
    rw [toLower_of_isDigit hdigit] at h
    rcases h with rfl | rfl <;> revert hdigit <;> decide
  have hgap : ¬ isGap c = true := by
    intro hgap
    rcases eq_of_isGap hgap with rfl | rfl | rfl | rfl <;> revert h <;> decide
  refine ⟨Bool.eq_false_of_not_eq_true hdigit, ?_, ?_, ?_, ?_, Bool.eq_false_of_not_eq_true hgap⟩
  all_goals
    rintro rfl
    revert h
    decide

/-- A word is no numeral, so its value is looked up. -/
theorem IsWord.scan?_append (h : IsWord w) (rest : List Char) :
    Numeral.scan? (w ++ rest) = none := by
  obtain ⟨c, ds, rfl, hc⟩ := h.exists_cons
  obtain ⟨hdigit, hpoint, hminus, hplus, -⟩ := ne_of_toLower hc
  rw [List.cons_append, Numeral.scan?, sign_of_ne hminus hplus]
  simp only [mantissa?_eq_none hdigit hpoint]
  rfl

theorem IsWord.readDouble? (h : IsWord w) {x : Float} (hx : special? w = some x) :
    Decimal.readDouble? (String.ofList w) = some x := by
  obtain ⟨c, ds, rfl, hc⟩ := h.exists_cons
  obtain ⟨-, -, hminus, hplus, -⟩ := ne_of_toLower hc
  unfold Decimal.readDouble?
  rw [String.toList_ofList, sign_of_ne hminus hplus]
  simp only [hx]
  rfl

/-! ### Bounds -/

/-- A bound begins with neither a gap nor a mark. -/
theorem BoundText.exists_cons (h : BoundText w x) :
    ∃ c ds, w = c :: ds ∧ isGap c = false ∧ c ≠ ';' := by
  rcases h.form with ⟨n, hn⟩ | hword
  · obtain ⟨c, ds, rfl, hc⟩ := hn.exists_cons
    have hgap : ¬ isGap c = true := by
      intro hgap
      rcases eq_of_isGap hgap with rfl | rfl | rfl | rfl <;> revert hc <;> decide
    refine ⟨c, ds, rfl, Bool.eq_false_of_not_eq_true hgap, ?_⟩
    rintro rfl
    revert hc
    decide
  · obtain ⟨c, ds, rfl, hc⟩ := hword.exists_cons
    obtain ⟨-, -, -, -, hmark, hgap⟩ := ne_of_toLower hc
    exact ⟨c, ds, rfl, hgap, hmark⟩

/-- **A bound that does not go on** is read whole. -/
theorem bound?_append (hg : Gaps g) (hw : BoundText w x) (hr : EndsBound rest) :
    bound? (g ++ (w ++ rest)) = some (x, rest) := by
  obtain ⟨c, ds, hcons, hgap, -⟩ := hw.exists_cons
  have hskip : skipGaps (g ++ (w ++ rest)) = w ++ rest := by
    rw [hcons]
    exact skipGaps_append hg hgap
  unfold bound?
  rw [hskip]
  rcases hw.form with ⟨n, hn⟩ | hword
  · have hvalue : n.value = x :=
      Option.some_inj.1 ((readDouble?_numeralText hn).symm.trans hw.value)
    simp only [scan?_append hn hr.endsNumeral, hvalue]
  · obtain ⟨y, hspecial, hread⟩ := word?_append hword hr
    have hvalue : y = x := Option.some_inj.1 ((hword.readDouble? hspecial).symm.trans hw.value)
    simp only [hword.scan?_append, hread, hvalue]

/-- **What is read as a bound is one**, behind gaps. -/
theorem exists_of_bound? (h : bound? cs = some (x, rest)) :
    ∃ g w, Gaps g ∧ BoundText w x ∧ cs = g ++ (w ++ rest) := by
  rw [bound?] at h
  obtain ⟨g, hg, hcs⟩ : ∃ g, Gaps g ∧ cs = g ++ skipGaps cs := exists_of_skipGaps rfl
  split at h
  · rename_i n after hscan
    cases h
    obtain ⟨w, hn, hsplit⟩ := exists_of_scan? hscan
    exact ⟨g, w, hg, ⟨.inl ⟨n, hn⟩, readDouble?_numeralText hn⟩, hsplit ▸ hcs⟩
  · obtain ⟨w, hword, hspecial, hsplit⟩ := exists_of_word? h
    exact ⟨g, w, hg, ⟨.inr hword, hword.readDouble? hspecial⟩, hsplit ▸ hcs⟩

/-! ### The two forms -/

/-- **The lines without bounds.** -/
theorem isUndefined_iff : isUndefined cs = true ↔ UndefinedText cs := by
  unfold isUndefined
  constructor
  · intro h
    split at h
    · rename_i rest hmarks
      simp only [Option.bind_eq_bind, Option.bind_eq_some_iff] at hmarks
      obtain ⟨cs₂, ⟨cs₁, hopen, hsep⟩, hclose⟩ := hmarks
      obtain ⟨g₁, h₁, rfl⟩ := exists_of_mark? hopen
      obtain ⟨g₂, h₂, rfl⟩ := exists_of_mark? hsep
      obtain ⟨g₃, h₃, rfl⟩ := exists_of_mark? hclose
      exact .intro h₁ h₂ h₃ (skipGaps_isEmpty_iff.1 h)
    · cases h
  · rintro ⟨h₁, h₂, h₃, h₄⟩
    simp only [mark?_append (c := '[') rfl h₁, mark?_append (c := ';') rfl h₂,
      mark?_append (c := ']') rfl h₃, Option.bind_eq_bind, Option.bind_some]
    exact skipGaps_isEmpty_iff.2 h₄

/-- **The lines with bounds.** -/
theorem bounds?_eq_some_iff {start stop : Float} :
    bounds? cs = some (start, stop) ↔ BoundsText cs start stop := by
  unfold bounds?
  constructor
  · intro h
    simp only [Option.bind_eq_bind, Option.bind_eq_some_iff] at h
    obtain ⟨⟨x, cs₂⟩, ⟨cs₁, hopen, hstart⟩, ⟨y, cs₄⟩, ⟨cs₃, hsep, hstop⟩, cs₅, hclose, hend⟩ := h
    obtain ⟨g₁, h₁, rfl⟩ := exists_of_mark? hopen
    obtain ⟨g₂, v, h₂, hv, rfl⟩ := exists_of_bound? hstart
    obtain ⟨g₃, h₃, rfl⟩ := exists_of_mark? hsep
    obtain ⟨g₄, w, h₄, hw, rfl⟩ := exists_of_bound? hstop
    obtain ⟨g₅, h₅, rfl⟩ := exists_of_mark? hclose
    split at hend
    · rename_i hempty
      cases hend
      exact .intro h₁ h₂ hv h₃ h₄ hw h₅ (skipGaps_isEmpty_iff.1 hempty)
    · cases hend
  · rintro ⟨h₁, h₂, hv, h₃, h₄, hw, h₅, h₆⟩
    simp only [mark?_append (c := '[') rfl h₁, mark?_append (c := ';') rfl h₃,
      mark?_append (c := ']') rfl h₅, bound?_append h₂ hv (endsBound_mark (.inl rfl) h₃),
      bound?_append h₄ hw (endsBound_mark (.inr rfl) h₅), Option.bind_eq_bind, Option.bind_some]
    exact if_pos (skipGaps_isEmpty_iff.2 h₆)

/-- No line has both forms: a bound begins with no mark. -/
theorem UndefinedText.not_boundsText (h : UndefinedText cs) (start stop : Float) :
    ¬ BoundsText cs start stop := by
  intro hb
  obtain ⟨g, ds, hg, hopen⟩ : ∃ g ds, Gaps g ∧ mark? '[' cs = some (g ++ ';' :: ds) := by
    obtain ⟨h₁, h₂, -, -⟩ := h
    exact ⟨_, _, h₂, mark?_append rfl h₁⟩
  obtain ⟨g', c, ds', hg', hgap, hmark, hopen'⟩ : ∃ g c ds, Gaps g ∧ isGap c = false ∧ c ≠ ';' ∧
      mark? '[' cs = some (g ++ c :: ds) := by
    obtain ⟨h₁, h₂, hv, -, -, -, -, -⟩ := hb
    obtain ⟨c, ds, rfl, hgap, hmark⟩ := hv.exists_cons
    exact ⟨_, c, _, h₂, hgap, hmark, mark?_append rfl h₁⟩
  have hskip := congrArg skipGaps (Option.some_inj.1 (hopen.symm.trans hopen'))
  rw [skipGaps_append hg rfl, skipGaps_append hg' hgap] at hskip
  exact hmark (List.cons.inj hskip).1.symm

/-! ### What is read -/

/-- What is read of a text: its form decides first, then whether both bounds are finite, then
whether they differ. -/
inductive Reading (text : String) : Except (Rejection Float) (Float × Float) → Prop
  | undefined (h : UndefinedText text.toList) : Reading text (.error .undefinedInterval)
  | nonFinite {start stop : Float} (h : BoundsText text.toList start stop)
    (hfinite : start.isFinite = false ∨ stop.isFinite = false) :
    Reading text (.error (.nonFiniteBound start stop))
  | degenerate {start stop : Float} {a : ℚ} (h : BoundsText text.toList start stop)
    (hstart : value? start = some (a : Number)) (hstop : value? stop = some (a : Number)) :
    Reading text (.error (.degenerateInterval start))
  | bounds {start stop : Float} {a b : ℚ} (h : BoundsText text.toList start stop)
    (hstart : value? start = some (a : Number)) (hstop : value? stop = some (b : Number))
    (hne : a ≠ b) : Reading text (.ok (start, stop))
  | malformed (hundefined : ¬ UndefinedText text.toList)
    (hbounds : ∀ start stop, ¬ BoundsText text.toList start stop) :
    Reading text (.error (.malformedInterval (trimmed text)))

/-- What is read of a line with bounds. -/
theorem read_of_boundsText {text : String} {start stop : Float}
    (h : BoundsText text.toList start stop) :
    read text =
      if !start.isFinite || !stop.isFinite then .error (.nonFiniteBound start stop)
      else if start == stop then .error (.degenerateInterval start)
      else .ok (start, stop) := by
  have hundefined : ¬ isUndefined text.toList = true := fun hu =>
    (isUndefined_iff.1 hu).not_boundsText start stop h
  unfold read
  rw [if_neg hundefined, bounds?_eq_some_iff.2 h]

theorem reading_of_boundsText {text : String} {start stop : Float}
    (h : BoundsText text.toList start stop) : Reading text (read text) := by
  rw [read_of_boundsText h]
  split
  · rename_i hfinite
    rw [Bool.or_eq_true, Bool.not_eq_true', Bool.not_eq_true'] at hfinite
    exact .nonFinite h hfinite
  · rename_i hfinite
    rw [Bool.or_eq_true, Bool.not_eq_true', Bool.not_eq_true', not_or, Bool.not_eq_false,
      Bool.not_eq_false] at hfinite
    obtain ⟨a, ha⟩ := isFinite_iff.1 hfinite.1
    obtain ⟨b, hb⟩ := isFinite_iff.1 hfinite.2
    have heq : (start == stop) = true ↔ a = b := (beq_iff ha hb).trans coe_inj
    split
    · rename_i hsame
      obtain rfl := heq.1 hsame
      exact .degenerate h ha hb
    · rename_i hne
      exact .bounds h ha hb fun hsame => hne (heq.2 hsame)

theorem reading_read (text : String) : Reading text (read text) := by
  by_cases hu : isUndefined text.toList = true
  · unfold read
    rw [if_pos hu]
    exact .undefined (isUndefined_iff.1 hu)
  cases hb : bounds? text.toList with
  | none =>
    unfold read
    rw [if_neg hu, hb]
    refine .malformed (fun h => hu (isUndefined_iff.2 h)) fun start stop h => ?_
    rw [bounds?_eq_some_iff.2 h] at hb
    cases hb
  | some p => exact reading_of_boundsText (bounds?_eq_some_iff.1 hb)

/-- **What is read of every text.** -/
theorem read_eq_iff (text : String) (r : Except (Rejection Float) (Float × Float)) :
    read text = r ↔ Reading text r := by
  constructor
  · rintro rfl
    exact reading_read text
  · intro h
    cases h with
    | undefined h =>
      unfold read
      rw [if_pos (isUndefined_iff.2 h)]
    | nonFinite h hfinite =>
      rw [read_of_boundsText h]
      refine if_pos ?_
      rw [Bool.or_eq_true, Bool.not_eq_true', Bool.not_eq_true']
      exact hfinite
    | @degenerate start stop a h hstart hstop =>
      have hsame : (start == stop) = true := (beq_iff hstart hstop).2 rfl
      rw [read_of_boundsText h, isFinite_iff.2 ⟨a, hstart⟩, isFinite_iff.2 ⟨a, hstop⟩]
      exact if_pos hsame
    | @bounds start stop a b h hstart hstop hne =>
      have hdiffer : ¬ (start == stop) = true := fun hsame =>
        hne (coe_inj.1 ((beq_iff hstart hstop).1 hsame))
      rw [read_of_boundsText h, isFinite_iff.2 ⟨a, hstart⟩, isFinite_iff.2 ⟨b, hstop⟩]
      exact if_neg hdiffer
    | malformed hundefined hbounds =>
      have hu : ¬ isUndefined text.toList = true := fun h => hundefined (isUndefined_iff.1 h)
      unfold read
      rw [if_neg hu]
      cases hb : bounds? text.toList with
      | none => rfl
      | some p => exact absurd (bounds?_eq_some_iff.1 hb) (hbounds p.1 p.2)

end Quadrature.Interval

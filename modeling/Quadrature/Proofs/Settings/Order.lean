import Mathlib.Data.List.Pairwise
import Quadrature.Proofs.Settings.Reading
import Quadrature.Proofs.Settings.Sound

/-!
# The order of the settings of a document

The settings of a document are taken one after another, in an order that the document does not
determine. It makes no difference: each of them is accepted or refused by itself, and those that are
accepted set fields of their own, for a document has one setting for each title and key.

* `Document.Distinct`, `Document.Distinct.value?_eq_some_iff`: the values of a document.
* `Settings.Updated`, `Settings.Updated.unique`: settings with the fields that a document writes, of
  which there are only one.
* `Settings.updated_of_foldlM`: **what becomes of the fields**, setting after setting.
* `Settings.ofDocument_perm`: **the outcome in every order.**
-/

namespace Quadrature

/-! ### Values -/

namespace Document

variable {d d' : Document} {title key : String}

/-- There is one setting for each title and key. -/
def Distinct (d : Document) : Prop := d.Pairwise fun s t => s.isAt t.title t.key = false

theorem Distinct.perm (h : d.Distinct) (hperm : d'.Perm d) : d'.Distinct := by
  refine (hperm.pairwise_iff ?_).2 h
  intro s t hst
  rw [← Bool.not_eq_true, Setting.isAt_iff] at hst ⊢
  exact fun hts => hst ⟨hts.1.symm, hts.2.symm⟩

/-- What is read has one setting for each title and key. -/
theorem distinct_of_read {α : Type} {text : String} (h : read (α := α) text = .ok d) :
    d.Distinct := by
  rcases read_eq_ok_iff.1 h with ⟨-, rfl⟩ | ⟨sections, rest, -, -, -, rfl⟩
  · exact .nil
  · exact (merged_foldl_put _).distinct

theorem value?_cons (t : Setting) (d : Document) (title key : String) :
    value? (t :: d) title key = if t.isAt title key then some t.value else d.value? title key := by
  unfold value?
  rw [List.find?_cons]
  cases t.isAt title key <;> rfl

/-- Behind a setting there is none with its title and key. -/
theorem value?_eq_none_of_isAt {t : Setting} (h : ∀ u ∈ d, t.isAt u.title u.key = false)
    (hat : t.isAt title key = true) : d.value? title key = none := by
  obtain ⟨rfl, rfl⟩ := t.isAt_iff.1 hat
  have hnone : ∀ u ∈ d, ¬ u.isAt t.title t.key = true := by
    intro u hu huat
    obtain ⟨htitle, hkey⟩ := u.isAt_iff.1 huat
    have hapart := h u hu
    rw [t.isAt_iff.2 ⟨htitle.symm, hkey.symm⟩] at hapart
    cases hapart
  unfold value?
  rw [List.find?_eq_none.2 hnone]
  rfl

/-- The values of a document are those of its settings. -/
theorem Distinct.value?_eq_some_iff (h : d.Distinct) {v : String} :
    d.value? title key = some v ↔ ⟨title, key, v⟩ ∈ d := by
  induction d with
  | nil => simp [value?]
  | cons t d ih =>
    obtain ⟨hhead, htail⟩ := List.pairwise_cons.1 h
    rw [value?_cons, List.mem_cons]
    by_cases hat : t.isAt title key = true
    · -- no later setting has this title and key
      have hnot : ⟨title, key, v⟩ ∉ d := by
        intro hmem
        rw [hhead _ hmem] at hat
        cases hat
      obtain ⟨rfl, rfl⟩ := t.isAt_iff.1 hat
      rw [if_pos hat, Option.some_inj]
      constructor
      · rintro rfl
        exact .inl rfl
      · rintro (heq | hmem)
        · exact (congrArg Setting.value heq).symm
        · exact absurd hmem hnot
    · have hne : ⟨title, key, v⟩ ≠ t := by
        rintro rfl
        exact hat (Setting.isAt_iff _ |>.2 ⟨rfl, rfl⟩)
      rw [if_neg hat, ih htail]
      simp [hne]

/-- They do not depend on the order. -/
theorem Distinct.value?_perm (h : d.Distinct) (hperm : d'.Perm d) (title key : String) :
    d'.value? title key = d.value? title key := by
  refine Option.ext fun v => ?_
  rw [(h.perm hperm).value?_eq_some_iff, h.value?_eq_some_iff, hperm.mem_iff]

end Document

/-! ### Setting after setting -/

namespace Settings

variable {d d' : Document} {s s' s'' : Settings} {r : Rejection Float} {t : Setting}

/-- Settings with the fields that a document writes: the value behind its key for every field that
the document has, and the value from before for every other one. -/
def Updated (s : Settings) (d : Document) (s' : Settings) : Prop :=
  ∀ f : Field, match d.value? f.title f.key with
    | some text => f.Writes text (s'.get f)
    | none => s'.get f = s.get f

/-- There is only one way to update settings. -/
theorem Updated.unique (h : s.Updated d s') (h' : s.Updated d s'') : s' = s'' := by
  refine ext_get fun f => ?_
  have hf := h f
  have hf' := h' f
  cases hvalue : d.value? f.title f.key with
  | some text =>
    rw [hvalue] at hf hf'
    exact hf.unique hf'
  | none =>
    rw [hvalue] at hf hf'
    exact hf.trans hf'.symm

/-- One setting and the rest of them. -/
theorem foldlM_apply_cons (t : Setting) (d : Document) (s : Settings) : (t :: d).foldlM apply s =
    Change.read t >>= fun c => d.foldlM apply (s.change c) := by
  rw [List.foldlM_cons]
  unfold apply
  cases Change.read t <;> rfl

/-- A setting is accepted or refused by itself, whatever the settings are so far. -/
theorem ofDocument_singleton (t : Setting) : ofDocument [t] = default.change <$> Change.read t := by
  rw [ofDocument_eq, foldlM_apply_cons]
  cases Change.read t <;> rfl

theorem of_foldlM_cons (h : (t :: d).foldlM apply s = .ok s') :
    ∃ c, Change.read t = .ok c ∧ d.foldlM apply (s.change c) = .ok s' := by
  rw [foldlM_apply_cons] at h
  cases hread : Change.read t with
  | error r =>
    rw [hread] at h
    cases h
  | ok c =>
    rw [hread] at h
    exact ⟨c, rfl, h⟩

/-- What is refused is refused for one of the settings, -/
theorem exists_error_of_foldlM (h : d.foldlM apply s = .error r) :
    ∃ t ∈ d, Change.read t = .error r := by
  induction d generalizing s with
  | nil => cases h
  | cons t d ih =>
    rw [foldlM_apply_cons] at h
    cases hread : Change.read t with
    | error r' =>
      rw [hread] at h
      obtain rfl := Except.error.inj h
      exact ⟨t, List.mem_cons_self, hread⟩
    | ok c =>
      rw [hread] at h
      obtain ⟨u, hu, hrefused⟩ := ih h
      exact ⟨u, List.mem_cons_of_mem t hu, hrefused⟩

/-- and where nothing is refused each of them is accepted. -/
theorem exists_change_of_foldlM (h : d.foldlM apply s = .ok s') :
    ∀ t ∈ d, ∃ c, Change.read t = .ok c := by
  induction d generalizing s with
  | nil => simp
  | cons t d ih =>
    obtain ⟨c, hc, hrest⟩ := of_foldlM_cons h
    exact List.forall_mem_cons.2 ⟨⟨c, hc⟩, ih hrest⟩

/-- **What becomes of the fields**, setting after setting. -/
theorem updated_of_foldlM (hd : d.Distinct) (h : d.foldlM apply s = .ok s') : s.Updated d s' := by
  induction d generalizing s with
  | nil =>
    obtain rfl := Except.ok.inj h
    intro f
    rfl
  | cons t d ih =>
    obtain ⟨hhead, htail⟩ := List.pairwise_cons.1 hd
    obtain ⟨c, hc, hfold⟩ := of_foldlM_cons h
    obtain ⟨hat, hwrites⟩ := Change.of_read hc
    have hrest := ih htail hfold
    intro f
    have hf := hrest f
    rw [Document.value?_cons]
    by_cases hfield : c.field = f
    · -- the rest of the document leaves this field as it is
      subst hfield
      have hnone := Document.value?_eq_none_of_isAt hhead hat
      rw [hnone, get_change] at hf
      rw [if_pos hat]
      dsimp only at hf ⊢
      rw [hf]
      exact hwrites
    · have hnot : ¬ t.isAt f.title f.key = true := by
        intro hat'
        have hkey := (t.isAt_iff.1 hat).2.symm.trans (t.isAt_iff.1 hat').2
        exact hfield (Field.eq_of_key hkey)
      rw [if_neg hnot]
      rw [get_change_of_ne hfield] at hf
      exact hf

/-! ### All settings of a document -/

/-- A document is refused for one of its settings, with the error that this setting has by itself; -/
theorem exists_refused (h : ofDocument d = .error r) : ∃ t ∈ d, ofDocument [t] = .error r := by
  rw [ofDocument_eq] at h
  obtain ⟨t, ht, hread⟩ := exists_error_of_foldlM h
  refine ⟨t, ht, ?_⟩
  rw [ofDocument_singleton, hread]
  rfl

/-- and accepted only with all of them. -/
theorem exists_accepted (h : ofDocument d = .ok s) (ht : t ∈ d) : ∃ s', ofDocument [t] = .ok s' := by
  rw [ofDocument_eq] at h
  obtain ⟨c, hread⟩ := exists_change_of_foldlM h t ht
  refine ⟨default.change c, ?_⟩
  rw [ofDocument_singleton, hread]
  rfl

theorem updated_of_ofDocument (hd : d.Distinct) (h : ofDocument d = .ok s) :
    default.Updated d s := by
  rw [ofDocument_eq] at h
  exact updated_of_foldlM hd h

/-- The fields that a document writes are the same in every order. -/
theorem Updated.of_perm (hd : d.Distinct) (hperm : d'.Perm d) (h : s.Updated d' s') :
    s.Updated d s' := by
  intro f
  have hf := h f
  rw [hd.value?_perm hperm] at hf
  exact hf

/-- **The outcome in every order.** A document that is read and whose settings are each accepted by
themselves is accepted in every order, with the same settings: the default ones with the fields that
the document writes. One with a setting that is refused by itself is refused in every order, with
the error of such a setting. -/
theorem ofDocument_perm {text : String} (h : Document.read (α := Float) text = .ok d) :
    read text = ofDocument d ∧
    ((∀ t ∈ d, ∃ s, ofDocument [t] = .ok s) →
      ∃ s, default.Updated d s ∧ ∀ d' : Document, d'.Perm d → ofDocument d' = .ok s) ∧
    ((∃ t ∈ d, ∃ r, ofDocument [t] = .error r) →
      ∀ d' : Document, d'.Perm d →
        ∃ t ∈ d, ∃ r, ofDocument [t] = .error r ∧ ofDocument d' = .error r) := by
  have hd := Document.distinct_of_read h
  refine ⟨?_, ?_, ?_⟩
  · unfold read
    rw [h]
    rfl
  · intro haccepted
    have hokay : ∀ d' : Document, d'.Perm d → ∃ s, ofDocument d' = .ok s := by
      intro d' hperm
      cases hresult : ofDocument d' with
      | ok s => exact ⟨s, rfl⟩
      | error r =>
        obtain ⟨t, ht, hrefused⟩ := exists_refused hresult
        obtain ⟨s, hs⟩ := haccepted t (hperm.mem_iff.1 ht)
        rw [hs] at hrefused
        cases hrefused
    obtain ⟨s, hs⟩ := hokay d (.refl d)
    have hupdated := updated_of_ofDocument hd hs
    refine ⟨s, hupdated, fun d' hperm => ?_⟩
    obtain ⟨s', hs'⟩ := hokay d' hperm
    have hupdated' := (updated_of_ofDocument (hd.perm hperm) hs').of_perm hd hperm
    rw [hs', hupdated'.unique hupdated]
  · rintro ⟨t, ht, r, hrefused⟩ d' hperm
    cases hresult : ofDocument d' with
    | ok s =>
      obtain ⟨s', hs'⟩ := exists_accepted hresult (hperm.mem_iff.2 ht)
      rw [hs'] at hrefused
      cases hrefused
    | error r' =>
      obtain ⟨u, hu, hur⟩ := exists_refused hresult
      exact ⟨u, hperm.mem_iff.1 hu, r', hur, rfl⟩

/-- Three settings in two orders, and two that are refused, of which each order names one. -/
theorem ofDocument_bothOrders :
    (∃ s, s.get .symbol = 't' ∧ s.get .refinement = 7 ∧ s.get .threshold = some .warn ∧
      s.get .rule = default.get .rule ∧
      ofDocument [⟨"parser", "variable", "t"⟩, ⟨"integration", "refinement", "7"⟩,
        ⟨"logging", "loglevel", "Warn"⟩] = .ok s ∧
      ofDocument [⟨"integration", "refinement", "7"⟩, ⟨"parser", "variable", "t"⟩,
        ⟨"logging", "loglevel", "Warn"⟩] = .ok s) ∧
    ∃ t ∈ ([⟨"parser", "colour", "1"⟩, ⟨"parser", "variable", "2"⟩] : Document),
      ∃ r, ofDocument [t] = .error r ∧
        ofDocument [⟨"parser", "variable", "2"⟩, ⟨"parser", "colour", "1"⟩] = .error r := by
  have hread : Document.read (α := Float)
      "parser variable: t integration refinement: 7 logging loglevel: Warn" =
      .ok [⟨"parser", "variable", "t"⟩, ⟨"integration", "refinement", "7"⟩,
        ⟨"logging", "loglevel", "Warn"⟩] := by decide +kernel
  have hrefused : Document.read (α := Float) "parser colour: 1 variable: 2" =
      .ok [⟨"parser", "colour", "1"⟩, ⟨"parser", "variable", "2"⟩] := by decide +kernel
  constructor
  · have haccepted : ∀ t ∈ ([⟨"parser", "variable", "t"⟩, ⟨"integration", "refinement", "7"⟩,
        ⟨"logging", "loglevel", "Warn"⟩] : Document), ∃ s, ofDocument [t] = .ok s := by
      rw [List.forall_mem_cons, List.forall_mem_cons, List.forall_mem_singleton]
      exact ⟨⟨default.change (.symbol 't'), by decide +kernel⟩,
        ⟨default.change (.refinement 7), by decide +kernel⟩,
        ⟨default.change (.threshold (some .warn)), by decide +kernel⟩⟩
    obtain ⟨s, hupdated, hall⟩ := (ofDocument_perm hread).2.1 haccepted
    have hs : s = ((default.change (.symbol 't')).change (.refinement 7)).change
        (.threshold (some .warn)) := by
      refine Except.ok.inj ((hall _ (.refl _)).symm.trans ?_)
      decide +kernel
    exact ⟨s, by rw [hs]; rfl, by rw [hs]; rfl, by rw [hs]; rfl, hupdated .rule, hall _ (.refl _),
      hall _ (.swap _ _ _)⟩
  · exact (ofDocument_perm hrefused).2.2
      ⟨_, List.mem_cons_self, .invalidSetting "parser.colour" .unknownKey, by decide +kernel⟩
      _ (.swap _ _ _)

end Settings

end Quadrature

import Quadrature.Settings.Basic

/-!
# The fields of the settings

Each key that a document may set stands for one field of the settings. A field is read from the text
behind its key alone, and a change sets one field and leaves the others as they are.

* `Field`, `Settings.get`: the fields and their values, `Settings.ext_get`: which are all there is.
* `Field.Writes`: what a text says about a field.
* `Change.of_read`: **a setting that is accepted writes a value for the field of its key.**
* `Settings.get_change`, `Settings.get_change_of_ne`: what a change does to the fields.
-/

namespace Quadrature

open Text

/-! ### Names -/

/-- A rule that is found has the name that was looked up. -/
theorem Rule.name_of_ofName? {name : String} {r : Rule} (h : ofName? name = some r) :
    r.name = name := by
  have hfound := List.find?_some (p := fun r : Rule => r.name == name) h
  exact beq_iff_eq.1 hfound

theorem Rule.name_injective : Function.Injective Rule.name := by
  intro r r' h
  have hfound := congrArg ofName? h
  rw [ofName?_name, ofName?_name] at hfound
  exact Option.some.inj hfound

/-- A level that is read stands in the table, behind the name that was written. -/
theorem Log.Threshold.mem_names_of_read {α : Type} {text : String} {t : Log.Threshold}
    (h : read (α := α) text = .ok t) :
    (String.ofList (lowercase (trim text.toList)), t) ∈ names := by
  unfold read at h
  dsimp only at h
  generalize String.ofList (lowercase (trim text.toList)) = name at h ⊢
  split at h
  · rename_i entry hfound
    obtain rfl := Except.ok.inj h
    have hname := List.find?_some (p := fun t : String × Log.Threshold => t.1 == name) hfound
    obtain rfl := beq_iff_eq.1 hname
    exact List.mem_of_find?_eq_some hfound
  · cases h

/-- The table has one level for each name. -/
theorem Log.Threshold.eq_of_mem_names {name : String} {t t' : Log.Threshold}
    (h : (name, t) ∈ names) (h' : (name, t') ∈ names) : t = t' := by
  have hnames : ∀ p ∈ names, ∀ q ∈ names, p.1 = q.1 → p.2 = q.2 := by decide
  exact hnames _ h _ h' rfl

/-! ### Fields -/

/-- What a document may set. -/
inductive Field where
  | symbol
  | capacity
  | refinement
  | step
  | rule
  | threshold
  | toFile
  | logFile
  | functionsFile
deriving DecidableEq

namespace Field

/-- The section of its key. -/
def title : Field → String
  | symbol | capacity => "parser"
  | refinement | step | rule => "integration"
  | threshold | toFile | logFile => "logging"
  | functionsFile => "storage"

/-- Its key in that section. -/
def key : Field → String
  | symbol => "variable"
  | capacity => "stack_capacity"
  | refinement => "refinement"
  | step => "step"
  | rule => "rule"
  | threshold => "loglevel"
  | toFile => "log_to_file"
  | logFile => "log_file"
  | functionsFile => "functions_file"

/-- Every field has a key of its own. -/
theorem eq_of_key {f g : Field} (h : f.key = g.key) : f = g := by
  revert h
  cases f <;> cases g <;> decide

/-- What it may be set to. -/
@[reducible] def Value : Field → Type
  | symbol => Char
  | capacity | refinement => Nat
  | step => Float
  | rule => Rule
  | threshold => Log.Threshold
  | toFile => Bool
  | logFile => Option String
  | functionsFile => String

/-- **What a text says about a field.** -/
def Writes : (f : Field) → String → f.Value → Prop
  | symbol, text, c => text.toList = [c] ∧ isLetter c = true
  | capacity, text, n =>
    Decimal.readNatural? text Change.greatestCapacity = some n ∧ 1 ≤ n
  | refinement, text, n =>
    Refinement.integer? text = some (n : Int) ∧ minRefinement ≤ n ∧ n ≤ maxRefinement
  | step, text, h => Decimal.readDouble? text = some h ∧ Scalar.isPositive h = true
  | rule, text, r => String.ofList (lowercase text.toList) = r.name
  | threshold, text, t =>
    (String.ofList (lowercase (trim text.toList)), t) ∈ Log.Threshold.names
  | toFile, text, b => text = if b then "true" else "false"
  | logFile, text, name => name = some text
  | functionsFile, text, name => name = text

/-- It says one thing only. -/
theorem Writes.unique {f : Field} {text : String} {v w : f.Value} (hv : f.Writes text v)
    (hw : f.Writes text w) : v = w := by
  cases f with
  | symbol => exact (List.cons.inj (hv.1.symm.trans hw.1)).1
  | capacity => exact Option.some.inj (hv.1.symm.trans hw.1)
  | refinement => exact Int.ofNat.inj (Option.some.inj (hv.1.symm.trans hw.1))
  | step => exact Option.some.inj (hv.1.symm.trans hw.1)
  | rule => exact Rule.name_injective (hv.symm.trans hw)
  | threshold => exact Log.Threshold.eq_of_mem_names hv hw
  | toFile =>
    have hword : ∀ b b' : Bool, (if b then "true" else "false") = (if b' then "true" else "false") →
        b = b' := by decide
    exact hword v w (hv.symm.trans hw)
  | logFile => exact hv.trans hw.symm
  | functionsFile => exact hv.trans hw.symm

end Field

/-- The field that a change sets. -/
def Change.field : Change → Field
  | symbol _ => .symbol
  | capacity _ => .capacity
  | refinement _ => .refinement
  | step _ => .step
  | rule _ => .rule
  | threshold _ => .threshold
  | toFile _ => .toFile
  | logFile _ => .logFile
  | functionsFile _ => .functionsFile

/-- What it sets the field to. -/
def Change.value : (c : Change) → c.field.Value
  | symbol c => c
  | capacity n => n
  | refinement n => n
  | step h => h
  | rule r => r
  | threshold t => t
  | toFile b => b
  | logFile name => some name
  | functionsFile name => name

namespace Settings

variable {s s' : Settings} {c : Change} {f : Field}

/-- The value of a field. -/
def get (s : Settings) : (f : Field) → f.Value
  | .symbol => s.compiler.symbol
  | .capacity => s.compiler.capacity
  | .refinement => s.fineness.refinement
  | .step => s.fineness.step
  | .rule => s.fineness.rule
  | .threshold => s.logging.threshold
  | .toFile => s.logging.toFile
  | .logFile => s.logging.file
  | .functionsFile => s.functionsFile

/-- The fields are all there is to settings. -/
theorem ext_get (h : ∀ f, s.get f = s'.get f) : s = s' := by
  obtain ⟨⟨symbol, capacity⟩, ⟨refinement, step, rule⟩, ⟨threshold, toFile, file⟩,
    functionsFile⟩ := s
  obtain rfl := h .symbol
  obtain rfl := h .capacity
  obtain rfl := h .refinement
  obtain rfl := h .step
  obtain rfl := h .rule
  obtain rfl := h .threshold
  obtain rfl := h .toFile
  obtain rfl := h .logFile
  obtain rfl := h .functionsFile
  rfl

/-- **A change sets its field,** -/
theorem get_change (s : Settings) (c : Change) : (s.change c).get c.field = c.value := by
  cases c <;> rfl

/-- and leaves the others as they are. -/
theorem get_change_of_ne (h : c.field ≠ f) : (s.change c).get f = s.get f := by
  cases c <;> cases f
  case symbol.symbol | capacity.capacity | refinement.refinement | step.step | rule.rule |
      threshold.threshold | toFile.toFile | logFile.logFile | functionsFile.functionsFile =>
    exact absurd rfl h
  all_goals rfl

end Settings

/-- The bounds of a number of parts that is accepted. -/
theorem Refinement.eq_of_accept {α : Type} {value : Int} {n : Nat}
    (h : accept (α := α) value = .ok n) :
    value = (n : Int) ∧ minRefinement ≤ n ∧ n ≤ maxRefinement := by
  unfold accept at h
  split at h
  · cases h
  rename_i hbounds
  obtain rfl := Except.ok.inj h
  rw [Bool.or_eq_true, decide_eq_true_eq, decide_eq_true_eq, not_or] at hbounds
  unfold minRefinement maxRefinement at *
  omega

theorem map_eq_ok {ε α β : Type} {f : α → β} {r : Except ε α} {b : β} (h : f <$> r = .ok b) :
    ∃ a, r = .ok a ∧ f a = b := by
  cases r with
  | error e => cases h
  | ok a => exact ⟨a, rfl, Except.ok.inj h⟩

/-- **A setting that is accepted** writes a value for the field of its key. -/
theorem Change.of_read {t : Setting} {c : Change} (h : read t = .ok c) :
    t.isAt c.field.title c.field.key = true ∧ c.field.Writes t.value c.value := by
  rw [Setting.isAt_iff]
  unfold read at h
  dsimp only at h
  split at h
  · rename_i htitle hkey
    split at h
    · rename_i hlist
      split at h
      · rename_i hletter
        obtain rfl := Except.ok.inj h
        exact ⟨⟨htitle, hkey⟩, hlist, hletter⟩
      · cases h
    · cases h
  · rename_i htitle hkey
    split at h
    · cases h
    · rename_i n hzero hn
      obtain rfl := Except.ok.inj h
      exact ⟨⟨htitle, hkey⟩, hn, Nat.one_le_iff_ne_zero.2 hzero⟩
    · cases h
  · rename_i htitle hkey
    split at h
    · rename_i hn
      obtain ⟨n, haccept, rfl⟩ := map_eq_ok h
      obtain ⟨rfl, hbounds⟩ := Refinement.eq_of_accept haccept
      exact ⟨⟨htitle, hkey⟩, hn, hbounds⟩
    · cases h
  · rename_i htitle hkey
    split at h
    · rename_i hx
      split at h
      · rename_i hpositive
        obtain rfl := Except.ok.inj h
        exact ⟨⟨htitle, hkey⟩, hx, hpositive⟩
      · cases h
    · cases h
  · rename_i htitle hkey
    split at h
    · rename_i hname
      obtain rfl := Except.ok.inj h
      exact ⟨⟨htitle, hkey⟩, (Rule.name_of_ofName? hname).symm⟩
    · cases h
  · rename_i htitle hkey
    obtain ⟨level, hlevel, rfl⟩ := map_eq_ok h
    exact ⟨⟨htitle, hkey⟩, Log.Threshold.mem_names_of_read hlevel⟩
  · rename_i htitle hkey
    split at h
    · rename_i htrue
      obtain rfl := Except.ok.inj h
      exact ⟨⟨htitle, hkey⟩, htrue⟩
    split at h
    · rename_i hfalse
      obtain rfl := Except.ok.inj h
      exact ⟨⟨htitle, hkey⟩, hfalse⟩
    · cases h
  · rename_i htitle hkey
    obtain rfl := Except.ok.inj h
    exact ⟨⟨htitle, hkey⟩, rfl⟩
  · rename_i htitle hkey
    obtain rfl := Except.ok.inj h
    exact ⟨⟨htitle, hkey⟩, rfl⟩
  · cases h

end Quadrature

import Quadrature.Proofs.Integral.Containment
import Quadrature.Proofs.Session.Endings
import Quadrature.Proofs.Settings.Sound
import Quadrature.Session.Program

/-!
# What a session has checked before it integrates

Settings are sound however they are loaded, and what is typed is checked before it is used. So an
integral that a session asks for passes every check of its request but the last one, which looks at
the width of the interval.

* `ends_load`: **loaded settings are sound.**
* `Plan.ofRequest_of_checked`: a request that was checked beforehand.
* `Program.load_covers`: **what a session can still be refused.**
-/

namespace Quadrature

open Attempt

/-! ### Loading -/

/-- The outcome is sound settings, if it is settings. -/
def SoundIfLoaded (r : Except Ending Settings) : Prop := ∀ s, r = .ok s → s.Sound

theorem soundIfLoaded_ok {s : Settings} (h : s.Sound) : SoundIfLoaded (.ok s) := by
  intro s' hs
  obtain rfl := Except.ok.inj hs
  exact h

theorem soundIfLoaded_error (e : Ending) : SoundIfLoaded (.error e) := by
  intro s hs
  cases hs

/-- **Loaded settings are sound**, whatever file is named and whatever it holds. -/
theorem ends_load (c : CommandLine) : (Program.load c).Ends SoundIfLoaded := by
  unfold Program.load
  extract_lets afterLevel afterDocument
  have hfiles : ∀ s : Settings, s.Sound → (afterLevel s).Ends SoundIfLoaded := by
    intro s hs
    refine .pure (soundIfLoaded_ok ?_)
    cases c.logFile <;> cases c.functionsFile <;> dsimp only
    · exact hs
    · exact hs.change (c := .functionsFile _) trivial
    · exact (hs.change (c := .toFile true) trivial).change (c := .logFile _) trivial
    · exact ((hs.change (c := .toFile true) trivial).change (c := .logFile _) trivial).change
        (c := .functionsFile _) trivial
  have hlevel : ∀ s : Settings, s.Sound → (afterDocument s).Ends SoundIfLoaded := by
    intro s hs
    unfold afterDocument
    cases c.loglevel with
    | none => exact hfiles s hs
    | some level =>
      refine .bind (fun _ => True) ?_ fun t _ => ?_
      · exact .check (fun _ _ => trivial) fun e _ => soundIfLoaded_error _
      · exact hfiles _ (hs.change (c := .threshold t) trivial)
  cases c.config with
  | none => exact hlevel _ Settings.sound_default
  | some file =>
    refine .bind (fun _ => True) ?_ fun text _ => ?_
    · exact .onFile (fun _ => trivial) fun e => soundIfLoaded_error _
    refine .bind Settings.Sound ?_ hlevel
    refine .check ?_ fun e _ => soundIfLoaded_error _
    intro s hs
    exact Settings.sound_of_read hs

/-! ### Integrating -/

/-- The bounds of an interval that is read are finite and different. -/
theorem Interval.of_read {text : String} {start stop : Float} (h : read text = .ok (start, stop)) :
    start.isFinite = true ∧ stop.isFinite = true ∧ (start == stop) = false := by
  unfold read at h
  split at h
  · cases h
  split at h
  · cases h
  split at h
  · cases h
  rename_i hfinite
  split at h
  · cases h
  rename_i hne
  obtain ⟨rfl, rfl⟩ := Prod.mk.inj (Except.ok.inj h)
  rw [Bool.or_eq_true, not_or, Bool.not_eq_true', Bool.not_eq_true', Bool.not_eq_false,
    Bool.not_eq_false] at hfinite
  exact ⟨hfinite.1, hfinite.2, Bool.eq_false_iff.2 hne⟩

/-- **A request that was checked beforehand** can only be too wide. -/
theorem Plan.ofRequest_of_checked {s : Fineness Float} {start stop : Float} {r : Rejection Float}
    (hstart : start.isFinite = true) (hstop : stop.isFinite = true)
    (hne : (start == stop) = false) (hcheck : s.check = .ok ())
    (h : ofRequest s start stop = .error r) : r = .intervalTooWide start stop s.step := by
  have hfinite : (!Scalar.isFinite start || !Scalar.isFinite stop) = false := by
    rw [Bool.or_eq_false_iff, Bool.not_eq_false', Bool.not_eq_false']
    exact ⟨hstart, hstop⟩
  have heq : Scalar.eq start stop = false := hne
  rw [ofRequest_eq, hfinite, heq, hcheck, if_neg Bool.false_ne_true, if_neg Bool.false_ne_true] at h
  dsimp only at h
  split at h
  · exact (Except.error.inj h).symm
  · cases h

/-- What is rejected of an integral is its request. -/
theorem Plan.ofRequest_of_integrate {α : Type} [Scalar α] {s : Fineness α} {f : α → α}
    {start stop : α} {r : Rejection α} (h : integrate s f start stop = .error (.rejected r)) :
    ofRequest s start stop = .error r := by
  cases hp : ofRequest s start stop with
  | error r' =>
    unfold integrate at h
    rw [hp] at h
    cases h
    rfl
  | ok p =>
    rw [integrate_of_plan hp] at h
    cases hsums : p.sums f <;> rw [hsums] at h <;> cases h

/-- **What a session can still be refused.** Settings that were loaded are sound, and for a number
of parts and an interval that were read an integral is refused only because it is too wide, whatever
is integrated; the session that asks for it can only be refused for its integrand besides. The
settings of a document are sound in every order of its settings, and the check that closes its
reading never fails. -/
theorem Program.load_covers {c : CommandLine} {w : World} {s : Settings}
    (h : (w.answer (load c).run).1 = .ok s) :
    s.Sound ∧
    (∀ answer n, Refinement.read (α := Float) answer = .ok n →
      ∀ interval start stop, Interval.read interval = .ok (start, stop) →
        (∀ f rejection, integrate { s.fineness with refinement := n } f start stop =
            .error (.rejected rejection) →
          rejection = .intervalTooWide start stop s.fineness.step) ∧
        ∀ w' integrand rejection, (World.answer (integrateText s integrand interval n).run w').1 =
            .error (.rejected (.rejected rejection)) →
          Integrand.accept integrand = .error rejection ∨
            rejection = .intervalTooWide start stop s.fineness.step) ∧
    ∀ d : Document, Settings.ofDocument d = d.foldlM Settings.apply Settings.default ∧
      ∀ s', Settings.ofDocument d = .ok s' → s'.Sound := by
  have hs : s.Sound := ends_load c w s h
  refine ⟨hs, ?_, fun d => ⟨Settings.ofDocument_eq d, fun s' => Settings.sound_of_ofDocument⟩⟩
  intro answer n hn interval start stop hread
  have hcheck : Fineness.check { s.fineness with refinement := n } = .ok () :=
    (hs.change (c := .refinement n) (Refinement.of_read hn)).check
  obtain ⟨hstart, hstop, hne⟩ := Interval.of_read hread
  have hwide : ∀ r, Plan.ofRequest { s.fineness with refinement := n } start stop = .error r →
      r = .intervalTooWide start stop s.fineness.step := by
    intro r hr
    exact Plan.ofRequest_of_checked (s := { s.fineness with refinement := n }) hstart hstop hne
      hcheck hr
  refine ⟨fun f rejection hf => hwide rejection (Plan.ofRequest_of_integrate hf), ?_⟩
  intro w' integrand rejection hrejected
  cases ends_integrateText s integrand interval n w' _ hrejected with
  | integrand h => exact .inl h
  | interval h => cases h.symm.trans hread
  | request hread' h =>
    -- the request is one for the interval that was read
    cases hread'.symm.trans hread
    exact .inr (hwide rejection h)

/-- A settings document in which only the variable and the step are given. An interval whose width
is beyond the doubles is refused with its step. -/
theorem Program.load_covers_widest :
    let c : CommandLine := ⟨some "s.txt", some "off", none, some "g.txt"⟩
    let w := World.fresh []
      [(["s.txt"], "parser variable: t\nintegration step: 0.5\n".toUTF8)]
    let s : Settings := ⟨⟨'t', 50⟩, ⟨1000, 0.5, .left⟩, ⟨none, false, none⟩, "g.txt"⟩
    (w.answer (load c).run).1 = .ok s ∧ s.Sound ∧
      Refinement.read (α := Float) "4" = .ok 4 ∧
      Interval.read "[-1e308 ; 1e308]" = .ok ((-1e308 : Float), (1e308 : Float)) ∧
      ∃ rejection, integrate ⟨4, 0.5, .left⟩ (fun x : Float => x) (-1e308) 1e308 =
        .error (.rejected rejection) ∧ rejection = .intervalTooWide (-1e308) 1e308 0.5 := by
  intro c w s
  have hload : (w.answer (load c).run).1 = .ok s := by decide +kernel
  have hn : Refinement.read (α := Float) "4" = .ok 4 := by decide +kernel
  have hread : Interval.read "[-1e308 ; 1e308]" = .ok ((-1e308 : Float), (1e308 : Float)) := by
    decide +kernel
  have hrejected : integrate ⟨4, 0.5, .left⟩ (fun x : Float => x) (-1e308) 1e308 =
      .error (.rejected (.intervalTooWide (-1e308) 1e308 0.5)) := by decide +kernel
  obtain ⟨hs, hcovers, -⟩ := load_covers hload
  obtain ⟨hwide, -⟩ := hcovers "4" 4 hn "[-1e308 ; 1e308]" (-1e308) 1e308 hread
  exact ⟨hload, hs, hn, hread, _, hrejected, hwide _ _ hrejected⟩

end Quadrature

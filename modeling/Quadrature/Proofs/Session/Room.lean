import Quadrature.Proofs.Journal.Pairs
import Quadrature.Proofs.Rpn.Unbounded
import Quadrature.Proofs.Session.Endings
import Quadrature.Proofs.Text.Words

/-!
# Room for every integrand

An integrand has at most a hundred characters, and so at most fifty tokens; the stack has room for
fifty operands unless the settings say otherwise. So no integrand overflows it.

* `Integrand.rpnTokens_of_accept`, `Integrand.length_rpnTokens_le`: the tokens of an integrand.
* `ends_withoutOverflow`: how an integral ends where there is room for fifty operands.
* `Integrand.fits`: **no integrand overflows the stack,** `Integrand.fits_fiftyVariables`: and some
  need all of its room.
-/

namespace Quadrature

open Text Dialogue Attempt

variable {α : Type} {typed integrand : String}

/-! ### The tokens of an integrand -/

/-- The tokens of an accepted integrand are those that were typed. -/
theorem Integrand.rpnTokens_of_accept (h : accept (α := α) typed = .ok integrand) :
    rpnTokens integrand = rpnTokens typed := by
  obtain ⟨rfl, -, -⟩ := of_accept h
  unfold rpnTokens trimmed
  rw [String.toList_ofList, words_trim]

/-- There are fifty at most. -/
theorem Integrand.length_rpnTokens_le (h : accept (α := α) typed = .ok integrand) :
    (rpnTokens integrand).length ≤ Compiler.defaultCapacity := by
  obtain ⟨rfl, -, hlength⟩ := of_accept h
  have hwords := length_words (trim typed.toList)
  unfold maxLength at hlength
  unfold rpnTokens trimmed Compiler.defaultCapacity
  rw [String.toList_ofList, List.length_map]
  omega

/-! ### Integrals -/

/-- An integral ends early for any reason but too small a stack, if there is room for fifty
operands. -/
theorem ends_withoutOverflow {s : Settings} (hs : Compiler.defaultCapacity ≤ s.compiler.capacity)
    (typed interval : String) (n : ℕ) :
    (integrateText s typed interval n).Ends
      (Only fun e => ∀ m, e ≠ .rejected (.compile (.stackOverflow m))) := by
  refine ends_integrateText_of (fun r _ => nofun) (fun r _ => nofun) ?_ (fun p => nofun)
    (fun start stop r _ _ => nofun) fun u => nofun
  rintro integrand e haccept he m hoverflow
  obtain rfl := Fault.compile.inj (Failure.rejected.inj hoverflow)
  have hroom := Nat.le_trans (Integrand.length_rpnTokens_le haccept) hs
  exact compile_ne_stackOverflow hroom m he

/-- **No integrand overflows the stack.** What is accepted has the tokens of what was typed, fifty at
most, and is compiled to the same result; with room for fifty operands that is no overflow, whatever
the variable. So with settings that leave this room, as the default ones do, no integral ends in an
overflow, whatever is typed and in every world. -/
theorem Integrand.fits :
    (∀ typed integrand, accept (α := Float) typed = .ok integrand →
      (rpnTokens integrand).length ≤ 50 ∧ rpnTokens integrand = rpnTokens typed ∧
      ∀ c : Compiler,
        compile (α := Float) c (rpnTokens integrand) = compile c (rpnTokens typed) ∧
        (50 ≤ c.capacity → ∀ n,
          compile (α := Float) c (rpnTokens integrand) ≠ .error (.rejected (.stackOverflow n)))) ∧
    50 ≤ Settings.default.compiler.capacity ∧
    ∀ s : Settings, 50 ≤ s.compiler.capacity →
      ∀ (typed interval : String) (refinement : ℕ) (w : World) (n : ℕ),
      (w.answer (integrateText s typed interval refinement).run).1 ≠
        .error (.rejected (.compile (.stackOverflow n))) := by
  refine ⟨?_, by decide, ?_⟩
  · intro typed integrand h
    have htokens := rpnTokens_of_accept h
    have hlength := length_rpnTokens_le h
    refine ⟨hlength, htokens, fun c => ⟨by rw [htokens], fun hc n => ?_⟩⟩
    exact compile_ne_stackOverflow (Nat.le_trans hlength hc) n
  · intro s hs typed interval refinement w n hoverflow
    exact ends_withoutOverflow hs typed interval refinement w _ hoverflow n rfl

/-- Fifty variables with blanks between them have ninety-nine characters and need all of the room:
they are too many for one tree, but not for the stack, where a place less overflows. -/
theorem Integrand.fits_fiftyVariables :
    let typed := String.ofList ([' '].intercalate (List.replicate 50 ['x']))
    accept (α := Float) typed = .ok typed ∧ typed.toList.length = 99 ∧
      (rpnTokens typed).length = 50 ∧
      (∀ n, compile (α := Float) ⟨'x', 50⟩ (rpnTokens typed) ≠
        .error (.rejected (.stackOverflow n))) ∧
      compile (α := Float) ⟨'x', 50⟩ (rpnTokens typed) = .error (.rejected (.trailingOperands 50)) ∧
      compile (α := Float) ⟨'x', 49⟩ (rpnTokens typed) = .error (.rejected (.stackOverflow 49)) ∧
      ((World.fresh [] []).answer (integrateText .default typed "[0 ; 1]" 1).run).1 ≠
        .error (.rejected (.compile (.stackOverflow 50))) := by
  intro typed
  have haccept : accept (α := Float) typed = .ok typed := by decide +kernel
  obtain ⟨-, -, hcompile⟩ := fits.1 typed typed haccept
  refine ⟨haccept, by decide +kernel, by decide +kernel, ?_, by decide +kernel, by decide +kernel, ?_⟩
  · exact (hcompile ⟨'x', 50⟩).2 (by decide)
  · exact fits.2.2 .default fits.2.1 typed "[0 ; 1]" 1 (World.fresh [] []) 50

end Quadrature

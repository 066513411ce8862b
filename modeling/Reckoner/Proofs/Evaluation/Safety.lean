import Reckoner.Proofs.Evaluation.Unresolved
import Reckoner.Proofs.Lowering.Correctness
import Reckoner.Proofs.Machine.Safety

/-! Evaluations do not get stuck.

When no call of a module is unresolved, each goes to a function with a body, to a host
function, or to a function that has a symbol in the process. So the module is runnable
(`Settled.runnable`), if host functions are declared with the one argument that they take,
and the machine that starts with a bare expression is sound (`Settled.sound_start`). -/
namespace Reckoner.Lowering
open IR

variable {P : Program} {m : Module}

/-- Host functions are declared with the one argument that they take. -/
def HostsFit (m : Module) : Prop :=
  ∀ f ∈ m.functions, f.isDeclaration = true → (Host.ofName? f.name).isSome = true → f.arity = 1

instance (m : Module) : Decidable (HostsFit m) :=
  inferInstanceAs (Decidable (∀ f ∈ m.functions, _ → _ → _))

theorem Settled.runnable (h : Settled P m) {hasSymbol : String → Bool}
    (resolved : m.listing.unresolved hasSymbol = []) (fit : HostsFit m) :
    m.Runnable fun name => hasSymbol name = true := by
  refine ⟨h.valid, fun f hf b hb => ?_, fun f hf b hb i hi callee calls g found => ?_⟩
  · by_cases body : f.blocks = []
    · rw [body] at hb
      cases hb
    · obtain ⟨d, -, implements⟩ := h.implements hf body
      exact implements.sources b hb
  · obtain ⟨mem, rfl⟩ := h.registry.function?_eq_some_iff.mp found
    by_cases body : g.blocks = []
    · have declared : g.isDeclaration = true := by
        rw [Function.isDeclaration, body, List.isEmpty_nil]
      cases host : Host.ofName? g.name with
      | some host' => exact .host body host (fit g mem declared (Option.isSome_of_eq_some host))
      | none =>
        refine .foreign body host (Bool.eq_true_of_not_eq_false fun missing => ?_)
        have ordinary : ∀ f ∈ m.functions, isReserved f.name = false :=
          fun f hf => (h.spelled f hf).ordinary
        have listed := (Module.mem_unresolved_iff ordinary hasSymbol g.name).mpr
          ⟨⟨⟨g, mem, declared, rfl⟩, missing⟩, .inl ⟨f, hf, b, hb, i, hi, calls⟩⟩
        rw [resolved] at listed
        cases listed
    · exact .body body

/-- The machine that starts with a bare expression is there, and it is sound. -/
theorem Settled.sound_start (h : Settled P m) {body : Expr} (bare : ⟨anonymousName, [], body⟩ ∈ P) :
    ∃ M, (m.function? anonymousName).bind (Machine.ofFunction? m) = some M ∧ M.module = m ∧
      M.Sound := by
  obtain ⟨F, found, implements⟩ := h.defined _ bare
  obtain ⟨b, rest, blocks⟩ := List.exists_cons_of_ne_nil implements.blocks_ne_nil
  have mem := (h.registry.function?_eq_some_iff.mp found).1
  have first : Activation.ofCall? F [] = some (firstMachine m F b).running := by
    rw [Activation.ofCall?, blocks]
    rfl
  refine ⟨firstMachine m F b, ?_, rfl, ⟨_, _, .of_ofCall? mem implements.arity.symm first⟩,
    List.forall_mem_nil _⟩
  exact (congrArg (Option.bind · _) found).trans (ofFunction?_eq blocks)

end Reckoner.Lowering

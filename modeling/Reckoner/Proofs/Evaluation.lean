import Reckoner.Proofs.Llvm

/-! How an evaluation goes.

A run gives a result only if it has called a function (`run_eq_ok`), which is the result of a
machine where code is executed as one (`eq_of_run`). A fault is met before that, so it does
not depend on what calls give (`run_of_fault`). With a reader, a module that statements
lead to is never refused unless a local name is too long, and the function of a bare
expression is always found (`Settled.run_fault`). -/
namespace Reckoner

namespace Evaluation
variable {llvm : Llvm} {started : Bool} {level : Level} {m : IR.Module} {name : String}

theorem compile_of_error {text : String} (refused : llvm.read m = .error text) :
    compile llvm level m = .error (.invalidModule m.name text) := by
  rw [compile, refused]

theorem compile_of_ok {held : llvm.Held} (read : llvm.read m = .ok held) :
    compile llvm level m = .ok (if level = .none then held else improveAll llvm level held) := by
  rw [compile, read]

/-- A module is compiled as it has been read if nothing is improved. -/
theorem compile_none : compile llvm .none m = .ok held ↔ llvm.read m = .ok held := by
  rw [compile]
  cases llvm.read m <;> simp

theorem run_of_compile_error {fault : Fault} (refused : compile llvm level m = .error fault) :
    run llvm started level m name = .error fault := by
  rw [run, refused]

/-- A run with a result is that of a call. -/
theorem run_eq_ok {r : Machine.Result} (h : run llvm started level m name = .ok r) :
    ∃ held, compile llvm level m = .ok held ∧
      (llvm.listing held).unresolved (llvm.hasSymbol started) = [] ∧ llvm.call held name = r := by
  unfold run at h
  cases compiled : compile llvm level m with
  | error fault =>
    rw [compiled] at h
    cases h
  | ok held =>
    rw [compiled] at h
    dsimp only at h
    split at h
    · cases h
    · rename_i resolved
      split at h
      · cases h
      · split at h
        · cases h
          exact ⟨held, rfl, resolved, rfl⟩
        · cases h

/-- Where code is executed as a machine, a run gives what the machine comes to. -/
theorem eq_of_run {proc : Process} (executes : llvm.Executes level proc m name)
    {r result : Machine.Result} (comes : m.result? proc name = some r)
    (h : run llvm started level m name = .ok result) : result = r := by
  obtain ⟨held, compiled, -, rfl⟩ := run_eq_ok h
  exact executes held compiled r comes

/-- What is compiled does not depend on what calls give. -/
theorem compile_call (call : llvm.Held → String → Machine.Result) :
    compile { llvm with call } level m = compile llvm level m := by
  cases read : llvm.read m with
  | error text =>
    rw [compile_of_error read]
    exact compile_of_error read
  | ok held =>
    rw [compile_of_ok read]
    exact compile_of_ok read

/-- A fault is met before anything is called. -/
theorem run_of_fault {fault : Fault} (h : run llvm started level m name = .error fault)
    (call : llvm.Held → String → Machine.Result) :
    run { llvm with call } started level m name = .error fault := by
  unfold run at h ⊢
  rw [compile_call]
  cases held : compile llvm level m with
  | error other =>
    rw [held] at h
    exact h
  | ok held' =>
    rw [held] at h
    dsimp only at h ⊢
    split at h
    · exact h
    · by_cases plain : (!name.toList.all isPlain) = true
      · rw [if_pos plain] at h ⊢
        exact h
      · rw [if_neg plain] at h ⊢
        by_cases found : llvm.hasFunction held' name = true
        · rw [if_pos found] at h
          cases h
        · rw [if_neg found] at h ⊢
          exact h

/-- A run is refused for calls that cannot be resolved just if some are listed. -/
theorem run_unresolved_iff :
    (∃ names, run llvm started level m name = .error (.unresolved names)) ↔
      ∃ held, compile llvm level m = .ok held ∧
        ∃ x, x ∈ (llvm.listing held).unresolved (llvm.hasSymbol started) := by
  unfold run
  cases compiled : compile llvm level m with
  | error fault =>
    refine iff_of_false ?_ ?_
    · rintro ⟨names, refused⟩
      cases refused
      unfold compile at compiled
      split at compiled <;> cases compiled
    · rintro ⟨held, ok, -⟩
      cases ok
  | ok held =>
    dsimp only
    cases listed : (llvm.listing held).unresolved (llvm.hasSymbol started) with
    | cons x rest =>
      exact iff_of_true ⟨x :: rest, rfl⟩ ⟨held, rfl, x, by rw [listed]; exact List.mem_cons_self⟩
    | nil =>
      refine iff_of_false ?_ ?_
      · rintro ⟨names, refused⟩
        dsimp only at refused
        split at refused
        · cases refused
        · split at refused <;> cases refused
      · rintro ⟨held', same, x, mem⟩
        cases same
        rw [listed] at mem
        cases mem

end Evaluation

namespace Lowering
open IR

/-- **What can keep a bare expression from running**: calls that cannot be resolved, or a
text that cannot be read, for which a local name of the module is too long. A long
parameter is enough for it. -/
theorem Settled.run_fault {P : Program} {m : Module} (h : Settled P m) (modest : IsModest m.name)
    {body : Expr} (bare : ⟨anonymousName, [], body⟩ ∈ P) {llvm : Llvm} (reader : llvm.IsReader)
    (started : Bool) (level : Evaluation.Level) :
    (∀ fault, Evaluation.run llvm started level m anonymousName = .error fault →
        (∃ names, fault = .unresolved names) ∨
          (∃ text, fault = .invalidModule m.name text) ∧ ¬m.IsShort) ∧
      (m.HasLongParam →
        ∃ text, Evaluation.run llvm started level m anonymousName =
          .error (.invalidModule m.name text)) := by
  have legible := h.legible modest
  refine ⟨fun fault failed => ?_, fun long => ?_⟩
  · unfold Evaluation.run at failed
    cases compiled : Evaluation.compile llvm level m with
    | error other =>
      rw [compiled] at failed
      cases failed
      refine .inr ⟨?_, fun short => ?_⟩
      · unfold Evaluation.compile at compiled
        split at compiled <;> cases compiled
        exact ⟨_, rfl⟩
      · obtain ⟨held, read⟩ := reader.accepts m h.valid legible short
        cases compiled.symm.trans (Evaluation.compile_of_ok read)
    | ok held =>
      rw [compiled] at failed
      dsimp only at failed
      split at failed
      · cases failed
        exact .inl ⟨_, rfl⟩
      · -- The name is plain and its function is found.
        obtain ⟨F, found, implements⟩ := h.defined _ bare
        obtain ⟨mem, name⟩ := h.registry.function?_eq_some_iff.mp found
        have there :=
          reader.finds m level held h.valid legible compiled F mem implements.blocks_ne_nil
        have name : F.name = anonymousName := name
        rw [name] at there
        have plain : anonymousName.toList.all Evaluation.isPlain = true := by decide
        rw [plain, there] at failed
        cases failed
  · obtain ⟨text, refused⟩ := reader.refuses m h.valid legible long
    exact ⟨text, Evaluation.run_of_compile_error (Evaluation.compile_of_error refused)⟩

end Lowering

end Reckoner

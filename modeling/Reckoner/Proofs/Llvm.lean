import Reckoner.Evaluation
import Reckoner.Proofs.Lowering.Valid

/-! What is asked of a code generator.

Nothing is known of a code generator but what is asked of it. Where the fate of a text
matters, that is to read what valid modules print (`Llvm.IsReader`); where the
names in a module matter, to leave them as they are (`Llvm.Shows`); where a value
matters, to execute code as a machine does in some process (`Llvm.Executes`). A text can
be read if its module is `IsLegible`, as all are that statements lead to
(`Settled.legible`), and no local name in it is too long. -/
namespace Reckoner

namespace IR

/-- All local names of a module are short enough for its text to be read. -/
def Module.IsShort (m : Module) : Prop :=
  ∀ f ∈ m.functions, ∀ x ∈ f.localNames, x.utf8ByteSize ≤ Llvm.localNameLimit

instance (m : Module) : Decidable m.IsShort :=
  inferInstanceAs (Decidable (∀ f ∈ m.functions, ∀ x ∈ f.localNames, _))

/-- A parameter is shown under a name that is too long. -/
def Module.HasLongParam (m : Module) : Prop :=
  ∃ f ∈ m.functions, ∃ x ∈ f.shownParams, Llvm.localNameLimit < x.utf8ByteSize

instance (m : Module) : Decidable m.HasLongParam :=
  inferInstanceAs (Decidable (∃ f ∈ m.functions, ∃ x ∈ f.shownParams, _))

theorem Module.IsShort.not_hasLongParam {m : Module} (h : m.IsShort) : ¬m.HasLongParam := by
  rintro ⟨f, hf, x, hx, long⟩
  have short := h f hf x (List.mem_append_left _ (List.mem_append_left _ hx))
  exact absurd long (Nat.not_lt.mpr short)

/-- A character that breaks the line of a comment, or the text in which it stands. -/
def breaksComment (c : Char) : Bool :=
  c = '\n' || c = '\r' || c = '\x00'

/-- A name of a module that stays within the comment that holds it. -/
def IsModest (name : String) : Prop :=
  ∀ c ∈ name.toList, breaksComment c = false

instance (name : String) : Decidable (IsModest name) :=
  List.decidableBAll _ name.toList

/-- A module of functions only, with names that need no care in a text. -/
structure Module.IsLegible (m : Module) : Prop where
  modest : IsModest m.name
  registry : m.Registry
  name : ∀ f ∈ m.functions, IsIdentifier f.name ∨ f.name = anonymousName
  locals : ∀ f ∈ m.functions, ∀ x ∈ f.localNames, Lowering.IsDotted x

end IR

namespace Llvm
open IR

variable (llvm : Llvm)

/-- The names in a module are still there when it is going to be run. -/
def Shows (level : Evaluation.Level) (m : Module) : Prop :=
  ∀ held, Evaluation.compile llvm level m = .ok held → llvm.listing held = m.listing

/-- A function that comes to a result in a process gives this result. -/
def Executes (level : Evaluation.Level) (proc : Process) (m : Module) (name : String) : Prop :=
  ∀ held, Evaluation.compile llvm level m = .ok held →
    ∀ r, m.result? proc name = some r → llvm.call held name = r

/-- Texts of valid modules are read unless a local name is too long, for which a long
parameter is enough; what has been read is shown as it stands, and a function with a body
is found under its name. -/
structure IsReader : Prop where
  accepts : ∀ m : Module, m.Valid → m.IsLegible → m.IsShort → ∃ held, llvm.read m = .ok held
  refuses : ∀ m : Module, m.Valid → m.IsLegible → m.HasLongParam → ∃ text, llvm.read m = .error text
  shows : ∀ m : Module, m.Valid → m.IsLegible → llvm.Shows .none m
  finds : ∀ (m : Module) level held, m.Valid → m.IsLegible →
    Evaluation.compile llvm level m = .ok held →
    ∀ f ∈ m.functions, f.blocks ≠ [] → llvm.hasFunction held f.name = true

end Llvm

/-- The modules that statements lead to are legible. -/
theorem Lowering.Settled.legible {P : Program} {m : IR.Module} (h : Settled P m)
    (modest : IR.IsModest m.name) : m.IsLegible where
  modest := modest
  registry := h.registry
  name f hf := (h.spelled f hf).name
  locals f hf x hx := (h.spelled f hf).used x ((h.named f hf).used hx)

end Reckoner

import Reckoner.Machine

/-! Steps of a machine.

A run that ends is a number of steps to a machine that is done (`finish_eq_some_iff`), and
steps from one machine to another one are a part of every run from the first
(`Steps.ends`). What a step computes is said here in terms of the values of
operands, which is all that the value of a run depends on: the sign of a value that is
no number goes with it unseen. -/
namespace Reckoner
open IR

/-- The value of an operand that is a double, without its sign. -/
def Activation.value? (a : Activation) (o : Operand) : Option Float :=
  (a.double? o).map (·.value)

/-- What an arithmetic instruction computes. -/
def IR.Arithmetic.value : Arithmetic → Float → Float → Float
  | add => (· + ·)
  | sub => (· - ·)
  | mul => (· * ·)

theorem IR.Arithmetic.value_apply (op : Arithmetic) (x y : Datum) :
    (op.apply x y).value = op.value x.value y.value := by
  cases op with
  | add => exact Datum.value_add x y
  | sub => exact Datum.value_sub x y
  | mul => exact Datum.value_mul x y

namespace Activation
variable {a : Activation}

/-- What an operation is given for an operand has the value of the operand. -/
theorem datum?_of_value? {o : Operand} {x : Float} (h : a.value? o = some x) :
    ∃ d, a.datum? o = some d ∧ d.value = x := by
  obtain ⟨y, double, rfl⟩ := Option.map_eq_some_iff.mp h
  exact ⟨{ double := y, isForeseen := a.foresees o }, by rw [datum?, double]; rfl, rfl⟩

theorem mapM_datum? {os : List Operand} {xs : List Float} (h : os.map a.value? = xs.map some) :
    ∃ ds, os.mapM a.datum? = some ds ∧ ds.map Datum.value = xs := by
  induction os generalizing xs with
  | nil =>
    cases xs with
    | nil => exact ⟨[], rfl, rfl⟩
    | cons x xs => cases h
  | cons o os ih =>
    cases xs with
    | nil => cases h
    | cons x xs =>
      obtain ⟨first, others⟩ := List.cons.inj h
      obtain ⟨d, hd, rfl⟩ := datum?_of_value? first
      obtain ⟨ds, hds, rfl⟩ := ih others
      exact ⟨d :: ds, by simp [List.mapM_cons, hd, hds], rfl⟩

/-- The value of an operand depends on the arguments and on its own result only. -/
theorem value?_congr {b : Activation} {o : Operand} (args : b.args = a.args)
    (kept : ∀ n type, o = .result n type → b.results.lookup n = a.results.lookup n) :
    b.value? o = a.value? o := by
  cases o with
  | const x => rfl
  | param i => rw [value?, double?, word?, args]; rfl
  | result n type => rw [value?, double?, word?, kept n type rfl]; rfl
  | function n arity => rfl

end Activation

namespace Machine

/-- A number of steps leads from one machine to another. -/
inductive Steps (proc : Process) : Nat → Machine → Machine → Prop where
  | refl {M : Machine} : Steps proc 0 M M
  | head {k : Nat} {M N O : Machine} : M.step proc = .next N → Steps proc k N O →
    Steps proc (k + 1) M O

/-- A run ends after a number of steps. -/
def Ends (proc : Process) (n : Nat) (M : Machine) (r : Result) : Prop :=
  ∃ N, Steps proc n M N ∧ N.step proc = .done r.value r.output

variable {proc : Process}

namespace Steps
variable {j k n : Nat} {M N O : Machine}

theorem one (h : M.step proc = .next N) : Steps proc 1 M N :=
  .head h .refl

theorem trans (h : Steps proc j M N) (h' : Steps proc k N O) : Steps proc (j + k) M O := by
  induction h with
  | refl => rwa [Nat.zero_add]
  | head first _ ih =>
    rw [Nat.succ_add]
    exact .head first (ih h')

/-- A run that ends goes through all steps. -/
theorem ends {r : Result} (h : Steps proc k M N) (ended : Ends proc n M r) :
    ∃ j, n = k + j ∧ Ends proc j N r := by
  induction h generalizing n with
  | refl => exact ⟨n, (Nat.zero_add n).symm, ended⟩
  | head first _ ih =>
    obtain ⟨O, steps, done⟩ := ended
    cases steps with
    | refl => cases done.symm.trans first
    | head second steps =>
      cases second.symm.trans first
      obtain ⟨j, rfl, rest⟩ := ih ⟨O, steps, done⟩
      exact ⟨j, (Nat.succ_add _ j).symm, rest⟩

end Steps

section
variable {M : Machine} {n : Nat} {r : Result}

/-- A run that ends does not get stuck. -/
theorem step_ne_stuck (ended : Ends proc n M r) : M.step proc ≠ .stuck := by
  obtain ⟨N, steps, done⟩ := ended
  cases steps with
  | refl => rw [done]; exact nofun
  | head first _ => rw [first]; exact nofun

theorem ends_of_done {x : Float} {s : String} (h : M.step proc = .done x s)
    (ended : Ends proc n M r) : r = ⟨x, s⟩ := by
  obtain ⟨N, steps, done⟩ := ended
  cases steps with
  | refl =>
    cases h.symm.trans done
    rfl
  | head first _ => cases h.symm.trans first

/-- A run comes to a result if it ends with it after some number of steps. -/
theorem finish_eq_some_iff : finish proc M = some r ↔ ∃ n, Ends proc n M r := by
  constructor
  · refine fun h => finish.partial_correctness proc (fun M r => ∃ n, Ends proc n M r) ?_ M r h
    intro rest ih M r finished
    split at finished
    · rename_i N next
      obtain ⟨n, O, steps, done⟩ := ih N r finished
      exact ⟨n + 1, O, .head next steps, done⟩
    · rename_i value output done
      cases finished
      exact ⟨0, M, .refl, done⟩
    · cases finished
  · rintro ⟨n, N, steps, done⟩
    induction steps with
    | refl => rw [finish, done]
    | head first _ ih =>
      rw [finish, first]
      exact ih done

/-- What a machine comes to within a number of steps. -/
def runFor (proc : Process) : Nat → Machine → Option Result
  | 0, _ => none
  | n + 1, M =>
    match M.step proc with
    | .next N => runFor proc n N
    | .done value output => some ⟨value, output⟩
    | .stuck => none

/-- What comes to a result within some steps comes to it. -/
theorem finish_of_runFor (h : runFor proc n M = some r) : finish proc M = some r := by
  induction n generalizing M with
  | zero => cases h
  | succ n ih =>
    rw [runFor] at h
    rw [finish]
    cases outcome : M.step proc with
    | next N =>
      rw [outcome] at h
      exact ih h
    | done value output => rwa [outcome] at h
    | stuck =>
      rw [outcome] at h
      cases h

end

/-! ### Instructions -/

section
variable {M : Machine} {rest : List Instr} {n : String}

/-- The machine once its next instruction has given a result, and written some text. -/
def recorded (M : Machine) (n : String) (w : Word) (isForeseen : Bool) (text : String) : Machine :=
  { M with running := M.running.record n w isForeseen, output := M.output ++ text }

theorem recorded_empty (M : Machine) (n : String) (w : Word) (isForeseen : Bool) :
    M.recorded n w isForeseen "" = { M with running := M.running.record n w isForeseen } := by
  rw [recorded, String.append_empty]

theorem step_arithmetic {op : Arithmetic} {l r : Operand} {x y : Float}
    (here : M.running.instrs = .arithmetic n op l r :: rest) (hl : M.running.value? l = some x)
    (hr : M.running.value? r = some y) :
    ∃ z fs, M.step proc = .next (M.recorded n (.double z) fs "") ∧ z.value = op.value x y := by
  obtain ⟨d, hd, rfl⟩ := Activation.datum?_of_value? hl
  obtain ⟨e, he, rfl⟩ := Activation.datum?_of_value? hr
  refine ⟨(op.apply d e).double, (op.apply d e).isForeseen, ?_, op.value_apply d e⟩
  rw [step, here, recorded_empty]
  simp only [execute, hd, he]
  rfl

theorem step_compare {relation : Relation} {l r : Operand} {x y : Float}
    (here : M.running.instrs = .compare n relation l r :: rest) (hl : M.running.value? l = some x)
    (hr : M.running.value? r = some y) :
    ∃ fs, M.step proc = .next (M.recorded n (.flag (relation.holds x y)) fs "") := by
  obtain ⟨d, hd, rfl⟩ := Activation.datum?_of_value? hl
  obtain ⟨e, he, rfl⟩ := Activation.datum?_of_value? hr
  refine ⟨d.isForeseen && e.isForeseen, ?_⟩
  rw [step, here, recorded_empty]
  simp only [execute, hd, he]

theorem step_widen {o : Operand} {b : Bool} (here : M.running.instrs = .widen n o :: rest)
    (ho : M.running.flag? o = some b) :
    ∃ fs, M.step proc = .next (M.recorded n (.double (widened b)) fs "") := by
  refine ⟨M.running.foresees o, ?_⟩
  rw [step, here, recorded_empty]
  simp only [execute, ho]
  rfl

/-- A phi takes the operand that belongs to the block from which control came. -/
theorem step_phi {incoming : List (Operand × String)} {o : Operand} {l : String} {x : Float}
    (here : M.running.instrs = .phi n incoming :: rest)
    (chosen : incoming.find? (fun p => M.running.previous = some p.2) = some (o, l))
    (ho : M.running.value? o = some x) :
    ∃ z, M.step proc = .next (M.recorded n (.double z) false "") ∧ z.value = x := by
  obtain ⟨z, double, rfl⟩ := Option.map_eq_some_iff.mp ho
  have word : M.running.word? o = some (.double z) := by
    unfold Activation.double? at double
    split at double
    · rename_i w found
      cases double
      exact found
    · cases double
  refine ⟨z, ?_, rfl⟩
  rw [step, here, recorded_empty]
  simp only [execute, chosen, Option.bind_some, word, Option.map_some]
  rfl

section
variable {callee : String} {args : List Operand} {ds : List Datum}
  (here : M.running.instrs = .call n callee args :: rest)
  (values : args.mapM M.running.datum? = some ds)
include here values

/-- A call that the process has a value for by the name of the callee. -/
theorem step_library {x : Float} (known : proc.library callee (ds.map (·.value)) = some x) :
    M.step proc = .next (M.recorded n (.double x) false "") := by
  rw [step, here, recorded_empty]
  simp only [execute, values, call, known]
  rfl

variable (unknown : proc.library callee (ds.map (·.value)) = none) {f : Function}
  (found : M.module.function? callee = some f)
include unknown found

/-- A call of a function with a body. -/
theorem step_call {b : Block} {blocks : List Block} (first : f.blocks = b :: blocks) :
    M.step proc = .next { M with
      running := { function := f, args := ds.map (·.double), block := b, instrs := b.instrs }
      waiting := (M.running, n) :: M.waiting } := by
  rw [step, here]
  simp only [execute, values, call, unknown, found, Option.bind_some, Activation.ofCall?, first,
    List.head?_cons, Option.map_some]

/-- A call of a function without a body. -/
theorem step_external (declared : f.blocks = []) :
    M.step proc = match proc.external? callee ds with
      | some (value, text) => .next (M.recorded n (.double value.double) value.isForeseen text)
      | none => .stuck := by
  rw [step, here]
  simp only [execute, values, call, unknown, found, Option.bind_some, Activation.ofCall?, declared,
    List.head?_nil, Option.map_none]
  rfl

end

end

/-- Behind its last instruction a block is left. -/
theorem step_leave {M : Machine} {t : Terminator} (ended : M.running.instrs = [])
    (terminator : M.running.block.terminator = some t) : M.step proc = M.leave t := by
  rw [step, ended]
  simp only [terminator]

end Machine

end Reckoner

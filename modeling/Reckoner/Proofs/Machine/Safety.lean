import Mathlib.Data.List.Nodup
import Reckoner.Proofs.IR.Names
import Reckoner.Proofs.IR.Valid
import Reckoner.Proofs.Machine

/-! Machines that do not get stuck.

What an instruction needs is that its operands have values of their types, that a call
goes somewhere and that a phi has an operand for the block from which control came
(`Activation.Supplied`); a block is left for one that is there. In a module whose calls
all go somewhere (`Module.Runnable`), an activation has always computed the results of
the blocks that it has passed and those in front of its next instruction
(`Activation.Along`). By validity these are the results that the instruction may use, so
nothing is missing (`Along.ready`), and each step keeps this (`Sound.step`). A call can
still lead out of what is known here: to a function that the process finds, though it is
no host function, and that gives no value (`Machine.Astray`). -/
namespace Reckoner
open IR

/-- Where a call of a function goes: to its body, to a host function with the one argument
that it takes, or to a function that the process knows by its name. -/
inductive IR.Function.Target (known : String → Prop) (g : Function) (callee : String) : Prop where
  | body : g.blocks ≠ [] → Target known g callee
  | host {h : Host} : g.blocks = [] → Host.ofName? callee = some h → g.arity = 1 →
    Target known g callee
  | foreign : g.blocks = [] → Host.ofName? callee = none → known callee → Target known g callee

/-- A valid module in which each call goes somewhere. -/
structure IR.Module.Runnable (m : Module) (known : String → Prop) : Prop where
  valid : m.Valid
  sources : ∀ f ∈ m.functions, ∀ b ∈ f.blocks, ∀ i ∈ b.instrs, i.HasSources
  targets : ∀ f ∈ m.functions, ∀ b ∈ f.blocks, ∀ i ∈ b.instrs, ∀ callee, i.callee? = some callee →
    ∀ g, m.function? callee = some g → g.Target known callee

theorem mem_of_function? {m : Module} {name : String} {f : Function}
    (found : m.function? name = some f) : f ∈ m.functions := by
  obtain ⟨g, there, is⟩ := Option.bind_eq_some_iff.mp found
  exact List.mem_filterMap.mpr ⟨g, List.mem_of_find?_eq_some there, is⟩

/-- A host function is not a reserved name, and has a value for any argument. -/
theorem Process.exists_external? (proc : Process) {h : Host} {callee : String}
    (host : Host.ofName? callee = some h) (d : Datum) :
    ∃ x text, proc.external? callee [d] = some ({ double := x }, text) := by
  have ordinary : isReserved callee = false := by
    rw [← Host.name_of_ofName? host]
    cases h <;> decide
  rw [external?_of_ordinary ordinary]
  unfold outside?
  rw [host]
  exact ⟨_, _, rfl⟩

/-! ### Names in a function -/

namespace IR.Function
variable {f : Function}

/-- A block is known by its label. -/
theorem block_eq_of_label (names : f.localNames.Nodup) {b d : Block} (hb : b ∈ f.blocks)
    (hd : d ∈ f.blocks) (same : b.label = d.label) : b = d := by
  have labels := (List.nodup_append.mp (List.nodup_append.mp names).1).2.1
  exact List.inj_on_of_nodup_map labels hb hd same

/-- An instruction is known by the name of its result. -/
theorem instr_eq_of_name (names : f.localNames.Nodup) {b d : Block} {i j : Instr}
    (hb : b ∈ f.blocks) (hi : i ∈ b.instrs) (hd : d ∈ f.blocks) (hj : j ∈ d.instrs)
    (same : i.name = j.name) : i = j := by
  have results := (List.nodup_append.mp names).2.1
  have flat : f.resultNames = (f.blocks.flatMap Block.instrs).map Instr.name := by
    rw [resultNames, List.map_flatMap]
  rw [flat] at results
  exact List.inj_on_of_nodup_map results (List.mem_flatMap.mpr ⟨b, hb, hi⟩)
    (List.mem_flatMap.mpr ⟨d, hd, hj⟩) same

theorem exists_block? {l : String} (h : l ∈ f.labels) : ∃ b, f.block? l = some b := by
  obtain ⟨b, hb, label⟩ := List.mem_map.mp h
  exact Option.isSome_iff_exists.mp (List.find?_isSome.mpr ⟨b, hb, by simpa using label⟩)

end IR.Function

/-! ### What a step needs -/

def Word.type : Word → Ty
  | double _ => .double
  | flag _ => .flag

namespace Activation
variable {a b : Activation} {m : Module} {known : String → Prop}

/-- An operand has a value of a type. -/
def Holds (a : Activation) (o : Operand) (type : Ty) : Prop :=
  ∃ w, a.word? o = some w ∧ w.type = type

theorem Holds.value? {o : Operand} (h : a.Holds o .double) : ∃ x, a.value? o = some x := by
  obtain ⟨w, found, type⟩ := h
  cases w with
  | double x => exact ⟨x.value, by rw [Activation.value?, double?, found]; rfl⟩
  | flag b => cases type

theorem Holds.double? {o : Operand} (h : a.Holds o .double) : ∃ x, a.double? o = some x := by
  obtain ⟨w, found, type⟩ := h
  cases w with
  | double x => exact ⟨x, by rw [Activation.double?, found]⟩
  | flag b => cases type

theorem Holds.flag? {o : Operand} (h : a.Holds o .flag) : ∃ b, a.flag? o = some b := by
  obtain ⟨w, found, type⟩ := h
  cases w with
  | double x => cases type
  | flag b => exact ⟨b, by rw [Activation.flag?, found]⟩

theorem exists_values {os : List Operand} (h : ∀ o ∈ os, a.Holds o .double) :
    ∃ ds, os.mapM a.datum? = some ds ∧ ds.length = os.length := by
  have values : ∃ xs : List Float, os.map a.value? = xs.map some := by
    induction os with
    | nil => exact ⟨[], rfl⟩
    | cons o os ih =>
      obtain ⟨first, others⟩ := List.forall_mem_cons.mp h
      obtain ⟨x, value⟩ := first.value?
      obtain ⟨xs, values⟩ := ih others
      exact ⟨x :: xs, by rw [List.map_cons, List.map_cons, value, values]⟩
  obtain ⟨xs, values⟩ := values
  obtain ⟨ds, found, same⟩ := mapM_datum? values
  refine ⟨ds, found, ?_⟩
  rw [← List.length_map Datum.value, same, ← List.length_map some, ← values, List.length_map]

/-- What an instruction needs is there: values of its operands, a function to call that
can be called, an operand for the block from which control came. -/
inductive Supplied (a : Activation) (m : Module) (known : String → Prop) : Instr → Prop where
  | arithmetic {n : String} {op : Arithmetic} {x y : Operand} :
    a.Holds x .double → a.Holds y .double → Supplied a m known (.arithmetic n op x y)
  | compare {n : String} {relation : Relation} {x y : Operand} :
    a.Holds x .double → a.Holds y .double → Supplied a m known (.compare n relation x y)
  | widen {n : String} {x : Operand} : a.Holds x .flag → Supplied a m known (.widen n x)
  | call {n callee : String} {args : List Operand} {g : Function} :
    (∀ x ∈ args, a.Holds x .double) → m.function? callee = some g → args.length = g.arity →
    g.Target known callee → Supplied a m known (.call n callee args)
  | phi {n : String} {incoming : List (Operand × String)} {p : Operand × String} :
    incoming.find? (fun p => a.previous = some p.2) = some p → a.Holds p.1 .double →
    Supplied a m known (.phi n incoming)

/-- What a terminator needs is there: a value to give, or a block to go to. -/
inductive Leaves (a : Activation) : Terminator → Prop where
  | ret {x : Operand} : a.Holds x .double → Leaves a (.ret x)
  | jump {l : String} {c : Block} : a.function.block? l = some c → Leaves a (.jump l)
  | branch {x : Operand} {yes no : String} {c d : Block} : a.Holds x .flag →
    a.function.block? yes = some c → a.function.block? no = some d → Leaves a (.branch x yes no)

/-- What the next step of an activation needs is there. -/
structure Ready (a : Activation) (m : Module) (known : String → Prop) : Prop where
  instr : ∀ i rest, a.instrs = i :: rest → a.Supplied m known i
  left : a.instrs = [] → ∃ t, a.block.terminator = some t ∧ a.Leaves t

/-! ### What an activation has computed -/

/-- The result of an instruction is there. -/
def Computed (a : Activation) (i : Instr) : Prop :=
  a.Holds (.result i.name i.type) i.type

/-- An activation has passed some blocks and executed some instructions of its block, and
has their results. -/
structure Along (a : Activation) (m : Module) (passed : List String) (before : List Instr) : Prop where
  function : a.function ∈ m.functions
  args : a.args.length = a.function.arity
  block : a.block ∈ a.function.blocks
  walk : a.function.Walk passed a.block.label
  previous : a.previous = passed.head?
  split : a.block.instrs = before ++ a.instrs
  here : ∀ i ∈ before, a.Computed i
  above : ∀ d ∈ a.function.blocks, d.label ∈ passed → ∀ i ∈ d.instrs, a.Computed i

namespace Along
variable {passed : List String} {before : List Instr}

/-- What is known at a place has a value there. -/
theorem holds_of {f : Function} {l : String} {o : Operand} {type : Ty}
    (known : f.Known l before o type) (args : a.args.length = f.arity)
    (here : ∀ i ∈ before, a.Computed i)
    (above : ∀ d ∈ f.blocks, f.Dominates d.label l → ∀ i ∈ d.instrs, a.Computed i) :
    a.Holds o type := by
  cases known with
  | const x => exact ⟨.double x, rfl, rfl⟩
  | @param i below =>
    have bound : i < a.args.length := args ▸ below
    exact ⟨.double a.args[i], by rw [word?, List.getElem?_eq_getElem bound]; rfl, rfl⟩
  | here mem => exact here _ mem
  | above hd hi dominates => exact above _ hd dominates _ hi

/-- What is known behind the instructions that have been executed has a value. -/
theorem holds (h : a.Along m passed before) {o : Operand} {type : Ty}
    (known : a.function.Known a.block.label before o type) : a.Holds o type :=
  holds_of known h.args h.here fun d hd dominates => h.above d hd (dominates passed h.walk)

/-- What is known at the end of the block before has a value. -/
theorem holds_previous (h : a.Along m passed before) {c : Block} {o : Operand} {type : Ty}
    (hc : c ∈ a.function.blocks) (came : a.previous = some c.label)
    (known : a.function.Known c.label c.instrs o type) : a.Holds o type := by
  obtain ⟨-, args, -, walk, previous, -, -, above⟩ := h
  cases walk with
  | entry _ => cases came.symm.trans previous
  | @step earlier l _ walk edge =>
    obtain rfl : c.label = l := Option.some.inj (came.symm.trans previous)
    exact holds_of known args (above c hc List.mem_cons_self) fun d hd dominates =>
      above d hd (List.mem_cons_of_mem _ (dominates _ walk))

/-- If control can come to a block, it has come from one. -/
theorem entered (h : a.Along m passed before) {k : String} (edge : a.function.Edge k a.block.label)
    (entry : ∀ l, a.function.labels.head? = some l → ∀ k, ¬a.function.Edge k l) :
    ∃ l, a.previous = some l ∧ a.function.Edge l a.block.label := by
  obtain ⟨-, -, -, walk, previous, -, -, -⟩ := h
  cases walk with
  | entry first => exact absurd edge (entry _ first k)
  | step _ edge => exact ⟨_, previous, edge⟩

/-- An activation that has gone along is ready for its next step. -/
theorem ready (h : a.Along m passed before) (runs : m.Runnable known) : a.Ready m known := by
  have function := runs.valid.functions _ h.function
  have block := function.blocks _ h.block
  refine ⟨fun i rest next => ?_, fun ended => ?_⟩
  · have split : a.block.instrs = before ++ i :: rest := next ▸ h.split
    have mem : i ∈ a.block.instrs := split ▸ List.mem_append_right _ List.mem_cons_self
    have sources := runs.sources _ h.function _ h.block i mem
    have targets := runs.targets _ h.function _ h.block i mem
    cases block.instrs before i rest split with
    | arithmetic x y => exact .arithmetic (h.holds x) (h.holds y)
    | compare x y => exact .compare (h.holds x) (h.holds y)
    | widen x => exact .widen (h.holds x)
    | @call n callee args g found count args =>
      exact .call (fun x hx => h.holds (args x hx)) found count (targets callee rfl g found)
    | @phi n incoming _ _ edges operands =>
      -- Control can come here from the blocks of the operands, so it has.
      obtain ⟨q, others, same⟩ := List.exists_cons_of_ne_nil sources
      have edge : a.function.Edge q.2 a.block.label := (edges q.2).mp (by simp [same])
      obtain ⟨l, previous, edge⟩ := h.entered edge function.entry
      obtain ⟨p, hp, label⟩ := List.mem_map.mp ((edges l).mpr edge)
      obtain ⟨chosen, found⟩ := Option.isSome_iff_exists.mp
        (List.find?_isSome.mpr ⟨p, hp, by simpa [previous] using label.symm⟩ :
          (incoming.find? fun p => a.previous = some p.2).isSome)
      have came : a.previous = some chosen.2 := by simpa using List.find?_some found
      obtain ⟨c, hc, label, known⟩ := operands chosen (List.mem_of_find?_eq_some found)
      exact .phi found (h.holds_previous hc (label ▸ came) known)
  · obtain ⟨t, terminator, valid⟩ := block.ended
    have done : a.block.instrs = before := by rw [h.split, ended, List.append_nil]
    have holds {o : Operand} {type : Ty}
        (known : a.function.Known a.block.label a.block.instrs o type) : a.Holds o type :=
      h.holds (done ▸ known)
    refine ⟨t, terminator, ?_⟩
    cases t with
    | ret x => exact .ret (holds (valid.value x rfl))
    | jump l =>
      obtain ⟨c, found⟩ := Function.exists_block? (valid.targets l List.mem_cons_self)
      exact .jump found
    | branch x yes no =>
      obtain ⟨c, found⟩ := Function.exists_block? (valid.targets yes List.mem_cons_self)
      obtain ⟨d, found'⟩ :=
        Function.exists_block? (valid.targets no (List.mem_cons_of_mem _ List.mem_cons_self))
      exact .branch (holds (valid.flag x yes no rfl)) found found'

/-! ### What goes on being so -/

/-- A call starts along. -/
theorem of_ofCall? {f : Function} {xs : List Double} (mem : f ∈ m.functions)
    (arity : xs.length = f.arity) (h : ofCall? f xs = some a) : a.Along m [] [] := by
  obtain ⟨b, first, rfl⟩ := Option.map_eq_some_iff.mp h
  have entry : f.labels.head? = some b.label := by
    rw [Function.labels, List.head?_map, first]
    rfl
  exact ⟨mem, arity, List.mem_of_mem_head? first, .entry entry, rfl, rfl, List.forall_mem_nil _,
    fun _ _ none => by cases none⟩

/-- The result of the next instruction is recorded. -/
theorem record (h : a.Along m passed before) (names : a.function.localNames.Nodup) {i : Instr}
    {rest : List Instr} (next : a.instrs = i :: rest) {w : Word} (type : w.type = i.type)
    (isForeseen : Bool) : (a.record i.name w isForeseen).Along m passed (before ++ [i]) := by
  have split : a.block.instrs = before ++ i :: rest := next ▸ h.split
  have mem : i ∈ a.block.instrs := split ▸ List.mem_append_right _ List.mem_cons_self
  -- No other instruction has a result of this name.
  have kept (d : Block) (hd : d ∈ a.function.blocks) (j : Instr) (hj : j ∈ d.instrs)
      (computed : a.Computed j) : (a.record i.name w isForeseen).Computed j := by
    by_cases same : i.name = j.name
    · obtain rfl := Function.instr_eq_of_name names h.block mem hd hj same
      exact ⟨w, List.lookup_cons_self, type⟩
    · obtain ⟨v, found, type⟩ := computed
      refine ⟨v, ?_, type⟩
      show ((i.name, w) :: a.results).lookup j.name = some v
      rw [List.lookup_cons, beq_false_of_ne fun eq => same eq.symm]
      exact found
  refine ⟨h.function, h.args, h.block, h.walk, h.previous, ?_, ?_, ?_⟩
  · show a.block.instrs = before ++ [i] ++ a.instrs.tail
    rw [split, next, List.append_assoc]
    rfl
  · refine List.forall_mem_append.mpr ⟨fun j hj => ?_, List.forall_mem_singleton.mpr ?_⟩
    · exact kept _ h.block j (split ▸ List.mem_append_left _ hj) (h.here j hj)
    · exact ⟨w, List.lookup_cons_self, type⟩
  · exact fun d hd before j hj => kept d hd j hj (h.above d hd before j hj)

/-- Control goes on to a block behind this one. -/
theorem goTo (h : a.Along m passed before) (names : a.function.localNames.Nodup)
    (ended : a.instrs = []) {l : String} (edge : a.function.Edge a.block.label l)
    (goes : a.goTo? l = some b) : b.Along m (a.block.label :: passed) [] := by
  obtain ⟨c, found, rfl⟩ := Option.map_eq_some_iff.mp goes
  have hc := List.mem_of_find?_eq_some found
  have label : c.label = l := by simpa using List.find?_some found
  have done : a.block.instrs = before := by rw [h.split, ended, List.append_nil]
  refine ⟨h.function, h.args, hc, label ▸ h.walk.step edge, rfl, rfl, List.forall_mem_nil _, ?_⟩
  intro d hd mem i hi
  rcases List.mem_cons.mp mem with same | earlier
  · obtain rfl := Function.block_eq_of_label names hd h.block same
    exact h.here i (done ▸ hi)
  · exact h.above d hd earlier i hi

end Along

end Activation

/-! ### Steps -/

namespace Machine

/-- A machine is at a call of a function that has no body and is no host function, which
the process knows but has no value for. -/
structure Astray (proc : Process) (known : String → Prop) (M : Machine) : Prop where
  call : ∃ n callee args rest g ds, M.running.instrs = .call n callee args :: rest ∧
    M.module.function? callee = some g ∧ g.blocks = [] ∧ Host.ofName? callee = none ∧
    known callee ∧ args.mapM M.running.datum? = some ds ∧ proc.external? callee ds = none

/-- What the step of a machine that is ready does. -/
inductive Goes (proc : Process) (known : String → Prop) (M : Machine) : Step → Prop where
  | record {i : Instr} {rest : List Instr} {w : Word} {isForeseen : Bool} {text : String} :
    M.running.instrs = i :: rest → w.type = i.type →
    Goes proc known M (.next (M.recorded i.name w isForeseen text))
  | enter {n callee : String} {args : List Operand} {rest : List Instr} {f : Function}
    {xs : List Double} {a : Activation} : M.running.instrs = .call n callee args :: rest →
    M.module.function? callee = some f → xs.length = f.arity → Activation.ofCall? f xs = some a →
    Goes proc known M (.next { M with running := a, waiting := (M.running, n) :: M.waiting })
  | goTo {t : Terminator} {l : String} {a : Activation} : M.running.instrs = [] →
    M.running.block.terminator = some t → l ∈ t.targets → M.running.goTo? l = some a →
    Goes proc known M (.next { M with running := a })
  | giveBack (x : Double) : Goes proc known M (M.giveBack x)
  | astray : M.Astray proc known → Goes proc known M .stuck

section
variable {proc : Process} {known : String → Prop} {M N : Machine}

theorem goes_of_supplied {i : Instr} {rest : List Instr} (here : M.running.instrs = i :: rest)
    (h : M.running.Supplied M.module known i) : M.Goes proc known (M.step proc) := by
  cases h with
  | arithmetic hx hy =>
    obtain ⟨x, hx⟩ := hx.value?
    obtain ⟨y, hy⟩ := hy.value?
    obtain ⟨z, fs, step, -⟩ := step_arithmetic here hx hy
    rw [step]
    exact .record here rfl
  | compare hx hy =>
    obtain ⟨x, hx⟩ := hx.value?
    obtain ⟨y, hy⟩ := hy.value?
    obtain ⟨fs, step⟩ := step_compare here hx hy
    rw [step]
    exact .record here rfl
  | widen hx =>
    obtain ⟨b, hx⟩ := hx.flag?
    obtain ⟨fs, step⟩ := step_widen here hx
    rw [step]
    exact .record here rfl
  | @call n callee args g hargs found count target =>
    obtain ⟨ds, values, length⟩ := Activation.exists_values hargs
    cases unknown : proc.library callee (ds.map (·.value)) with
    | some x =>
      rw [step_library here values unknown]
      exact .record here rfl
    | none =>
      cases target with
      | body written =>
        obtain ⟨b, blocks, first⟩ := List.exists_cons_of_ne_nil written
        rw [step_call here values unknown found first]
        have given : (ds.map (·.double)).length = g.arity := by
          rw [List.length_map, length, count]
        refine .enter here found given ?_
        rw [Activation.ofCall?, first]
        rfl
      | host declared isHost arity =>
        rw [step_external here values unknown found declared]
        obtain ⟨d, rfl⟩ := List.length_eq_one_iff.mp (length.trans (count.trans arity))
        obtain ⟨x, text, replies⟩ := proc.exists_external? isHost d
        simp only [replies]
        exact .record here rfl
      | foreign declared other knows =>
        rw [step_external here values unknown found declared]
        cases replies : proc.external? callee ds with
        | some r => exact .record here rfl
        | none => exact .astray ⟨n, callee, args, rest, g, ds, here, found, declared, other, knows,
            values, replies⟩
  | @phi n incoming p chosen hx =>
    obtain ⟨x, hx⟩ := hx.value?
    obtain ⟨z, step, -⟩ := step_phi here chosen hx
    rw [step]
    exact .record here rfl

theorem goes_of_leaves {t : Terminator} (ended : M.running.instrs = [])
    (terminator : M.running.block.terminator = some t) (h : M.running.Leaves t) :
    M.Goes proc known (M.step proc) := by
  rw [step_leave ended terminator]
  have goTo {l : String} {c : Block} (found : M.running.function.block? l = some c) :
      ∃ a, M.running.goTo? l = some a := ⟨_, by rw [Activation.goTo?, found]; rfl⟩
  cases h with
  | ret hx =>
    obtain ⟨x, hx⟩ := hx.double?
    simp only [leave, hx]
    exact .giveBack x
  | jump found =>
    obtain ⟨a, goes⟩ := goTo found
    simp only [leave, goes, resume]
    exact .goTo ended terminator List.mem_cons_self goes
  | branch hx yes no =>
    obtain ⟨b, hx⟩ := hx.flag?
    simp only [leave, hx, Option.bind_some]
    cases b with
    | true =>
      obtain ⟨a, goes⟩ := goTo yes
      simp only [if_true, goes, resume]
      exact .goTo ended terminator List.mem_cons_self goes
    | false =>
      obtain ⟨a, goes⟩ := goTo no
      simp only [Bool.false_eq_true, if_false, goes, resume]
      exact .goTo ended terminator (List.mem_cons_of_mem _ List.mem_cons_self) goes

/-- What a machine that is ready does. -/
theorem goes_of_ready (h : M.running.Ready M.module known) : M.Goes proc known (M.step proc) := by
  cases here : M.running.instrs with
  | cons i rest => exact goes_of_supplied here (h.instr i rest here)
  | nil =>
    obtain ⟨t, terminator, leaves⟩ := h.left here
    exact goes_of_leaves here terminator leaves

/-- All calls that a machine has begun have gone along, and those that wait do so at a
call. -/
structure Sound (M : Machine) : Prop where
  running : ∃ passed before, M.running.Along M.module passed before
  waiting : ∀ w ∈ M.waiting, ∃ passed before i rest, w.1.Along M.module passed before ∧
    w.1.instrs = i :: rest ∧ i.name = w.2 ∧ i.type = .double

theorem Sound.ready (h : M.Sound) (runs : M.module.Runnable known) :
    M.running.Ready M.module known := by
  obtain ⟨passed, before, along⟩ := h.running
  exact along.ready runs

variable (proc) in
/-- **A sound machine goes on**, and stays sound, or it is done, or it is at a call that
leads astray. -/
theorem Sound.step (h : M.Sound) (runs : M.module.Runnable known) :
    (∃ N, M.step proc = .next N ∧ N.module = M.module ∧ N.Sound) ∨
      (∃ x text, M.step proc = .done x text) ∨ M.step proc = .stuck ∧ M.Astray proc known := by
  have goes : M.Goes proc known (M.step proc) := goes_of_ready (h.ready runs)
  obtain ⟨⟨passed, before, along⟩, waiting⟩ := h
  have names {a : Activation} {passed : List String} {before : List Instr}
      (along : a.Along M.module passed before) : a.function.localNames.Nodup :=
    (runs.valid.functions _ along.function).names
  generalize M.step proc = outcome at goes ⊢
  cases goes with
  | record here type =>
    exact .inl ⟨_, rfl, rfl, ⟨_, _, along.record (names along) here type _⟩, waiting⟩
  | @enter n callee args rest f xs a here found count enters =>
    refine .inl ⟨_, rfl, rfl, ⟨_, _, .of_ofCall? (mem_of_function? found) count enters⟩, ?_⟩
    exact List.forall_mem_cons.mpr ⟨⟨passed, before, _, rest, along, here, rfl, rfl⟩, waiting⟩
  | goTo ended terminator target goes =>
    have edge : M.running.function.Edge M.running.block.label _ :=
      ⟨_, along.block, rfl, _, terminator, target⟩
    exact .inl ⟨_, rfl, rfl, ⟨_, _, along.goTo (names along) ended edge goes⟩, waiting⟩
  | giveBack x =>
    unfold Machine.giveBack
    cases callers : M.waiting with
    | nil => exact .inr (.inl ⟨_, _, rfl⟩)
    | cons w rest =>
      rw [callers] at waiting
      obtain ⟨⟨passed, before, i, instrs, along, here, name, type⟩, others⟩ :=
        List.forall_mem_cons.mp waiting
      have back := along.record (names along) here (w := .double x) type.symm false
      rw [name] at back
      exact .inl ⟨_, rfl, rfl, ⟨_, _, back⟩, others⟩
  | astray astray => exact .inr (.inr ⟨rfl, astray⟩)

/-- A sound machine stays sound. -/
theorem Sound.steps (h : M.Sound) (runs : M.module.Runnable known) {j : Nat}
    (steps : Steps proc j M N) : N.module = M.module ∧ N.Sound := by
  induction steps with
  | refl => exact ⟨rfl, h⟩
  | @head _ M _ _ first _ ih =>
    rcases h.step proc runs with ⟨O, next, module, sound⟩ | ⟨x, text, done⟩ | ⟨stuck, -⟩
    · obtain rfl := Step.next.inj (first.symm.trans next)
      obtain ⟨same, last⟩ := ih sound (module ▸ runs)
      exact ⟨same.trans module, last⟩
    · cases first.symm.trans done
    · cases first.symm.trans stuck

/-- **A sound machine never gets stuck**, unless a call leads it astray. -/
theorem Sound.never_stuck (h : M.Sound) (runs : M.module.Runnable known) {j : Nat}
    (steps : Steps proc j M N) :
    N.running.Ready N.module known ∧ (N.step proc = .stuck → N.Astray proc known) := by
  obtain ⟨module, there⟩ := h.steps runs steps
  refine ⟨there.ready (module ▸ runs), fun stuck => ?_⟩
  rcases there.step proc (module ▸ runs) with ⟨O, next, -⟩ | ⟨x, text, done⟩ | ⟨-, astray⟩
  · cases stuck.symm.trans next
  · cases stuck.symm.trans done
  · exact astray

end

end Machine

end Reckoner

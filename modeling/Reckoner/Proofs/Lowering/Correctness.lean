import Reckoner.Proofs.Lowering.Simulation

/-! Code computes what its expression means.

If an expression has a value in a process, a machine in front of its code comes to the end of the
code with that value and with the text (`computes_of_evaluates`). If a run from in front of the
code ends with a value, the expression has one (`traces`): such a run has
finitely many steps, and a call in it leaves fewer for the body of the function. So a
bare expression comes to a result if and only if it evaluates to it
(`Settled.result?_iff`). -/
namespace Reckoner

/-- Operators have the meaning of the instructions that they are lowered to. -/
def Lowering.Operation.value : Operation → Float → Float → Float
  | .arithmetic op => op.value
  | .less => fun x y => if x.isNaN || y.isNaN || x < y then 1.0 else 0.0

theorem operator?_eq (op : String) (x y : Float) :
    operator? op x y = (Lowering.Operation.ofString? op).map (·.value x y) := by
  by_cases known : op = "+" ∨ op = "-" ∨ op = "*" ∨ op = "<"
  · rcases known with rfl | rfl | rfl | rfl <;> rfl
  · simp only [not_or] at known
    simp [operator?, Lowering.Operation.ofString?, known]

namespace Lowering
open IR

/-! ### The functions of a program -/

theorem lookup_map {α β γ : Type} [BEq α] (l : List (α × β)) (g : β → γ) (n : α) :
    (l.map fun p => (p.1, g p.2)).lookup n = (l.lookup n).map g := by
  induction l with
  | nil => rfl
  | cons p rest ih =>
    rw [List.map_cons, List.lookup_cons, List.lookup_cons, ih]
    cases n == p.1 <;> rfl

/-- In a call a parameter stands for the argument of its place. -/
theorem lookup_bind {d : Definition} {args : List Double} (length : args.length = d.params.length)
    {n : String} {i : Nat} (found : d.params.zipIdx.reverse.lookup n = some i) :
    ∃ x, args[i]? = some x ∧ (d.bind (args.map (·.value))).lookup n = some x.value := by
  have below : i < args.length := length ▸ lt_of_lookup found
  have places : d.params.zip (args.map (·.value)) =
      d.params.zipIdx.map fun p => (p.1, ((args.map (·.value))[p.2]?).getD 0.0) := by
    refine List.ext_getElem (by simp [length]) fun j hj _ => ?_
    have hj : j < args.length := by simp at hj; omega
    simp [hj]
  refine ⟨args[i], List.getElem?_eq_getElem below, ?_⟩
  rw [Definition.bind, places, ← List.map_reverse,
    lookup_map _ (fun i => ((args.map (·.value))[i]?).getD 0.0), found]
  simp [below]

mutual

/-- An expression that has code calls functions that are known. -/
theorem Code.calls {arity? : String → Option Nat} {names : List (String × Nat)} {p q : Point}
    {e : Expr} {v : Operand} {bs : List Piece} {ns : List String} :
    Code arity? names p e v bs q ns → e.Calls fun n => (arity? n).isSome = true
  | .number | .var _ => trivial
  | .arithmetic _ lhs rhs | .less _ lhs rhs => ⟨lhs.calls, rhs.calls⟩
  | .call _ arity args => ⟨Option.isSome_of_eq_some arity, args.allCall⟩
  | .conditional c _ t e => ⟨c.calls, t.calls, e.calls⟩

theorem CodeAll.allCall {arity? : String → Option Nat} {names : List (String × Nat)} {p q : Point}
    {es : List Expr} {vs : List Operand} {bs : List Piece} {ns : List String} :
    CodeAll arity? names p es vs bs q ns → Expr.AllCall (fun n => (arity? n).isSome = true) es
  | .nil => trivial
  | .cons first others => ⟨first.calls, others.allCall⟩

end

/-- A function of a module whose blocks are the code of a definition, and its first block. -/
structure Body (m : Module) (d : Definition) (f : Function) (b : Block) : Prop where
  found : m.function? d.name = some f
  first : ∃ rest, f.blocks = b :: rest
  arity : f.arity = d.params.length
  code : ∃ v bs q ns all, Code m.arity? d.params.zipIdx.reverse ⟨b.label, [], []⟩ d.body v bs q ns ∧
    Fitting f all bs q ns ∧ ⟨q, .ret v⟩ ∈ all

section
variable {P : Program} {m : Module} {d : Definition} {f : Function} {b : Block} {callee : String}

theorem Settled.body (h : Settled P m) (mem : d ∈ P) : ∃ f b, Body m d f b := by
  obtain ⟨f, found, implements⟩ := h.defined d mem
  have named := h.named f (h.registry.function?_eq_some_iff.mp found).1
  obtain ⟨entry, v, bs, q, ns, code, whole, taken, head⟩ := implements.whole named
  obtain ⟨b, rest, blocks⟩ := List.exists_cons_of_ne_nil implements.blocks_ne_nil
  have label : b.label = entry := by
    rw [Function.labels, blocks] at head
    exact Option.some.inj head
  refine ⟨f, b, found, ⟨rest, blocks⟩, implements.arity, v, bs, q, ns, ⟨q, .ret v⟩ :: bs,
    label ▸ code, ?_, List.mem_cons_self⟩
  exact ⟨whole, List.subset_cons_self _ _, whole.within List.mem_cons_self,
    (List.nodup_cons.mp taken).2⟩

/-- A definition calls functions of the module only. -/
theorem Settled.calls (h : Settled P m) (mem : d ∈ P) :
    d.body.Calls fun n => (m.function? n).isSome = true := by
  obtain ⟨f, b, body⟩ := h.body mem
  obtain ⟨v, bs, q, ns, all, code, -⟩ := body.code
  simpa only [Module.arity?, Option.isSome_map] using code.calls

theorem mem_of_definition? (found : P.definition? callee = some d) : d ∈ P ∧ d.name = callee :=
  ⟨List.mem_of_find?_eq_some found, by simpa using List.find?_some found⟩

/-- What is not defined has no body. -/
theorem Settled.declared (h : Settled P m) (undefined : P.definition? callee = none)
    (found : m.function? callee = some f) : f.blocks = [] := by
  by_cases body : f.blocks = []
  · exact body
  · obtain ⟨mem, name⟩ := h.registry.function?_eq_some_iff.mp found
    obtain ⟨d, hd, same⟩ := h.only f mem body
    exact absurd (same.trans name) (by simpa using List.find?_eq_none.mp undefined d hd)

/-- A machine that starts a function is in front of its code. -/
theorem Body.ready (h : Body m d f b) {M : Machine} {args : List Double} (module : M.module = m)
    (running : M.running = { function := f, args, block := b, instrs := b.instrs })
    (length : args.length = d.params.length) :
    Ready m d.params.zipIdx.reverse (d.bind (args.map (·.value))) f ⟨b.label, [], []⟩ M := by
  obtain ⟨rest, blocks⟩ := h.first
  refine ⟨module, ⟨?_, ?_, ?_, ?_⟩, ?_⟩
  · rw [running]
  · rw [running, blocks]
    exact List.mem_cons_self
  · rw [running]
  · rw [running]
    rfl
  · intro n i found
    rw [running]
    exact lookup_bind length found

theorem Body.entered (h : Body m d f b) {M : Machine} {ds : List Datum} (module : M.module = m)
    (length : (ds.map Datum.value).length = d.params.length) (n : String) :
    Ready m d.params.zipIdx.reverse (d.bind (ds.map Datum.value)) f ⟨b.label, [], []⟩
      (entered M n f b (ds.map (·.double))) := by
  have doubles : (ds.map (·.double)).length = d.params.length := by
    rwa [List.length_map] at length ⊢
  have start := h.ready (M := Lowering.entered M n f b (ds.map (·.double))) module rfl doubles
  rwa [List.map_map] at start

end

/-! ### From values to runs -/

/-- The names that one branch takes are among those of the conditional. -/
theorem taken_subset {ns ms ks js : List String} {flag yes no join n : String} (h : js ⊆ ms ++ ks) :
    ns ++ [flag] ++ js ++ [n] ⊆ ns ++ [flag, yes, no, join] ++ ms ++ ks ++ [n] := by
  intro a mem
  have more (inJ : a ∈ js) := h inJ
  simp only [List.mem_append, List.mem_cons, List.not_mem_nil, or_false] at *
  tauto

section
variable (proc : Process) (m : Module)

/-- Wherever the code of an expression stands, it gives the value `x` and writes `s`. -/
def Computes (env : Bindings) (e : Expr) (x : Float) (s : String) : Prop :=
  ∀ {names : List (String × Nat)} {f : Function} {all bs : List Piece} {p q : Point} {v : Operand}
    {ns : List String} {M : Machine}, Code m.arity? names p e v bs q ns → Fitting f all bs q ns →
    Ready m names env f p M → ∃ k N, Gives proc f q v x ns s k M N

def ComputesAll (env : Bindings) (es : List Expr) (xs : List Float) (s : String) : Prop :=
  ∀ {names : List (String × Nat)} {f : Function} {all bs : List Piece} {p q : Point}
    {vs : List Operand} {ns : List String} {M : Machine}, CodeAll m.arity? names p es vs bs q ns →
    Fitting f all bs q ns → Ready m names env f p M → ∃ k N, GivesAll proc f q vs xs ns s k M N

variable {proc m} {Q : Program} {env : Bindings} {x y z : Float} {s t : String} {l : Option Location}

theorem computes_number (x : Double) : Computes proc m env (.number x l) x.value "" := by
  intro names f all bs p q v ns M code _ ready
  cases code with
  | number => exact ⟨0, M, .refl M, ready.stands, rfl⟩

theorem computes_var {n : String} (found : env.lookup n = some x) :
    Computes proc m env (.var n l) x "" := by
  intro names f all bs p q v ns M code _ ready
  cases code with
  | var there =>
    obtain ⟨y, arg, value⟩ := ready.binds _ _ there
    rw [found] at value
    cases value
    refine ⟨0, M, .refl M, ready.stands, ?_⟩
    rw [Activation.value?, Activation.double?, Activation.word?, arg]
    rfl

theorem computes_binary {op : String} {lhs rhs : Expr} (hl : Computes proc m env lhs x s)
    (hr : Computes proc m env rhs y t) (meaning : operator? op x y = some z) :
    Computes proc m env (.binary op lhs rhs l) z (s ++ t) := by
  intro names f all bs p q v ns M code fitting ready
  rw [operator?_eq] at meaning
  cases code with
  | arithmetic op lhs rhs =>
    rw [op] at meaning
    cases meaning
    obtain ⟨fl, fr, disjoint⟩ := fitting.fewer.before.both rhs.within_start
    obtain ⟨j, N, left⟩ := hl lhs fl ready
    obtain ⟨k, O, right⟩ := hr rhs fr (ready.on left.toComes left.stands)
    exact left.arithmetic fitting.whole right (fun n _ same => disjoint n (lhs.mem_names same))
      fitting.within
  | less op lhs rhs =>
    rw [op] at meaning
    cases meaning
    obtain ⟨fl, fr, disjoint⟩ := fitting.fewer.before.before.both rhs.within_start
    obtain ⟨j, N, left⟩ := hl lhs fl ready
    obtain ⟨k, O, right⟩ := hr rhs fr (ready.on left.toComes left.stands)
    exact left.less fitting.whole right (fun n _ same => disjoint n (lhs.mem_names same))
      fitting.within

theorem computesAll_nil : ComputesAll proc m env [] [] "" := by
  intro names f all bs p q vs ns M code _ ready
  cases code with
  | nil => exact ⟨0, M, .refl M, ready.stands, rfl⟩

theorem computesAll_cons {e : Expr} {es : List Expr} {xs : List Float} (he : Computes proc m env e x s)
    (hes : ComputesAll proc m env es xs t) : ComputesAll proc m env (e :: es) (x :: xs) (s ++ t) := by
  intro names f all bs p q vs ns M code fitting ready
  cases code with
  | cons one more =>
    obtain ⟨ff, fo, disjoint⟩ := fitting.both more.within_start
    obtain ⟨j, N, left⟩ := he one ff ready
    obtain ⟨k, O, right⟩ := hes more fo (ready.on left.toComes left.stands)
    exact ⟨_, O, .cons left right fun n _ same => disjoint n (one.mem_names same)⟩

theorem computes_library {callee : String} {args : List Expr} {xs : List Float}
    (known : proc.library callee xs = some x) (hargs : ComputesAll proc m env args xs s) :
    Computes proc m env (.call callee args l) x s := by
  intro names f all bs p q v ns M code fitting ready
  cases code with
  | call _ _ args =>
    obtain ⟨j, N, given⟩ := hargs args fitting.fewer.before ready
    exact given.library fitting.whole known fitting.within

theorem computes_call (settled : Settled Q m) {callee : String} {args : List Expr} {d : Definition}
    {xs : List Float} (unknown : proc.library callee xs = none)
    (found : Q.definition? callee = some d) (length : xs.length = d.params.length)
    (hargs : ComputesAll proc m env args xs s) (hbody : Computes proc m (d.bind xs) d.body x t) :
    Computes proc m env (.call callee args l) x (s ++ t) := by
  intro names f all bs p q v ns M code fitting ready
  obtain ⟨mem, rfl⟩ := mem_of_definition? found
  obtain ⟨g, b, body⟩ := settled.body mem
  obtain ⟨v, cs, r, ms, all', inner, fitting', ret⟩ := body.code
  obtain ⟨rest, blocks⟩ := body.first
  cases code with
  | call known arity args =>
    obtain ⟨j, N, given⟩ := hargs args fitting.fewer.before ready
    obtain ⟨ds, values, rfl⟩ := Activation.mapM_datum? given.values
    have module := given.module.trans ready.module
    obtain ⟨k, O, value⟩ := hbody inner fitting' (body.entered module length _)
    exact given.call fitting.whole values unknown (module ▸ body.found) blocks
      (value.returns fitting'.whole ret) fitting.within

theorem computes_outside (settled : Settled Q m) {callee : String} {args : List Expr}
    {xs : List Float} (unknown : proc.library callee xs = none)
    (undefined : Q.definition? callee = none) (replies : proc.outside? callee xs = some (x, t))
    (hargs : ComputesAll proc m env args xs s) :
    Computes proc m env (.call callee args l) x (s ++ t) := by
  intro names f all bs p q v ns M code fitting ready
  cases code with
  | call known arity args =>
    obtain ⟨j, N, given⟩ := hargs args fitting.fewer.before ready
    obtain ⟨d, found, -⟩ := Option.map_eq_some_iff.mp arity
    exact given.outside fitting.whole unknown (given.module.trans ready.module) found
      (settled.declared undefined found) (settled.ordinary found) replies fitting.within

theorem computes_conditional {c t e : Expr} (hc : Computes proc m env c x s) {w : String}
    (hbranch : Computes proc m env (if isTrue x then t else e) y w) :
    Computes proc m env (.conditional c t e l) y (s ++ w) := by
  intro names f all bs p q v ns M code fitting ready
  cases code with
  | conditional c here t e =>
    obtain ⟨w, ls, l, js, code, fl, jump, taken, chosen⟩ := fitting.branch t e (isTrue x)
    obtain ⟨j, N, condition⟩ := hc c (fitting.condition here).fewer.fewer.fewer.fewer ready
    obtain ⟨k, O, front, stands⟩ :=
      condition.fork fitting.whole here (fitting.subset (by simp)) code fl
    obtain ⟨i, R, branch⟩ := hbranch code fl (ready.on front stands)
    obtain ⟨_, _, gives⟩ := Gives.join fitting.whole front branch jump fitting.within chosen
    exact ⟨_, _, gives.weaken (taken_subset taken)⟩

mutual

/-- **Code gives the value of its expression**, if it has one. -/
theorem computes_of_evaluates (settled : Settled Q m) {env : Bindings} {e : Expr} {x : Float}
    {s : String} : e.Evaluates proc Q env x s → Computes proc m env e x s
  | .number => computes_number _
  | .var found => computes_var found
  | .binary hl hr meaning =>
    computes_binary (computes_of_evaluates settled hl) (computes_of_evaluates settled hr) meaning
  | .library known hargs =>
    computes_library known (computesAll_of_evaluates settled hargs)
  | .call unknown found length hargs hbody =>
    computes_call settled unknown found length (computesAll_of_evaluates settled hargs)
      (computes_of_evaluates settled hbody)
  | .outside unknown undefined replies hargs =>
    computes_outside settled unknown undefined replies (computesAll_of_evaluates settled hargs)
  | .conditional hc hbranch =>
    computes_conditional (computes_of_evaluates settled hc) (computes_of_evaluates settled hbranch)

theorem computesAll_of_evaluates (settled : Settled Q m) {env : Bindings} {es : List Expr}
    {xs : List Float} {s : String} :
    Expr.EvaluatesAll proc Q env es xs s → ComputesAll proc m env es xs s
  | .nil => computesAll_nil
  | .cons first others =>
    computesAll_cons (computes_of_evaluates settled first) (computesAll_of_evaluates settled others)

end

end

/-! ### From runs to values -/

section
variable (proc : Process) (Q : Program) (m : Module) (n : Nat)

/-- A run that gives a value within `n` steps, from in front of the code of an expression,
gets to the end of the code with a value that the expression has. -/
def Traces (e : Expr) : Prop :=
  ∀ {env : Bindings} {names : List (String × Nat)} {f : Function} {all bs : List Piece}
    {p q : Point} {v : Operand} {ns : List String} {M : Machine} {j : Nat} {r : Machine.Result},
    Code m.arity? names p e v bs q ns → Fitting f all bs q ns → Ready m names env f p M →
    j ≤ n → M.Ends proc j r →
    ∃ x s k N, e.Evaluates proc Q env x s ∧ Gives proc f q v x ns s k M N

def TracesAll (es : List Expr) : Prop :=
  ∀ {env : Bindings} {names : List (String × Nat)} {f : Function} {all bs : List Piece}
    {p q : Point} {vs : List Operand} {ns : List String} {M : Machine} {j : Nat}
    {r : Machine.Result},
    CodeAll m.arity? names p es vs bs q ns → Fitting f all bs q ns → Ready m names env f p M →
    j ≤ n → M.Ends proc j r →
    ∃ xs s k N, Expr.EvaluatesAll proc Q env es xs s ∧ GivesAll proc f q vs xs ns s k M N

variable {proc Q m n} {l : Option Location}

/-- A run is followed once it is known what the expression evaluates to: the code comes to it. -/
theorem gives_of_evaluates (settled : Settled Q m) {e : Expr} {names : List (String × Nat)}
    {f : Function} {all bs : List Piece} {p q : Point} {v : Operand} {ns : List String}
    {M : Machine} (code : Code m.arity? names p e v bs q ns) (fitting : Fitting f all bs q ns)
    (ready : Ready m names env f p M) (evaluates : ∃ x s, e.Evaluates proc Q env x s) :
    ∃ x s k N, e.Evaluates proc Q env x s ∧ Gives proc f q v x ns s k M N := by
  obtain ⟨x, s, eval⟩ := evaluates
  obtain ⟨k, N, gives⟩ := computes_of_evaluates settled eval code fitting ready
  exact ⟨x, s, k, N, eval, gives⟩

theorem traces_number (x : Double) : Traces proc Q m n (.number x l) := by
  intro env names f all bs p q v ns M j r code fitting ready _ _
  obtain ⟨k, N, gives⟩ := computes_number x code fitting ready
  exact ⟨x.value, "", k, N, .number, gives⟩

theorem traces_var (name : String) : Traces proc Q m n (.var name l) := by
  intro env names f all bs p q v ns M j r code fitting ready _ _
  have found : ∃ x, env.lookup name = some x := by
    cases code with
    | var there =>
      obtain ⟨x, -, value⟩ := ready.binds _ _ there
      exact ⟨x.value, value⟩
  obtain ⟨x, found⟩ := found
  obtain ⟨k, N, gives⟩ := computes_var found code fitting ready
  exact ⟨x, "", k, N, .var found, gives⟩

theorem traces_binary (settled : Settled Q m) {op : String} {lhs rhs : Expr}
    (hl : Traces proc Q m n lhs) (hr : Traces proc Q m n rhs) :
    Traces proc Q m n (.binary op lhs rhs l) := by
  intro env names f all bs p q v ns M j r code fitting ready le ended
  refine gives_of_evaluates settled code fitting ready ?_
  cases code with
  | arithmetic meaning lhs rhs =>
    obtain ⟨fl, fr, -⟩ := fitting.fewer.before.both rhs.within_start
    obtain ⟨x, s, i, N, evalL, left⟩ := hl lhs fl ready le ended
    obtain ⟨j, rfl, later⟩ := left.steps.ends ended
    obtain ⟨y, t, k, O, evalR, -⟩ :=
      hr rhs fr (ready.on left.toComes left.stands) (by omega) later
    exact ⟨_, _, .binary evalL evalR (by rw [operator?_eq, meaning]; rfl)⟩
  | less meaning lhs rhs =>
    obtain ⟨fl, fr, -⟩ := fitting.fewer.before.before.both rhs.within_start
    obtain ⟨x, s, i, N, evalL, left⟩ := hl lhs fl ready le ended
    obtain ⟨j, rfl, later⟩ := left.steps.ends ended
    obtain ⟨y, t, k, O, evalR, -⟩ :=
      hr rhs fr (ready.on left.toComes left.stands) (by omega) later
    exact ⟨_, _, .binary evalL evalR (by rw [operator?_eq, meaning]; rfl)⟩

theorem tracesAll_nil : TracesAll proc Q m n [] := by
  intro env names f all bs p q vs ns M j r code fitting ready _ _
  obtain ⟨k, N, gives⟩ := computesAll_nil code fitting ready
  exact ⟨[], "", k, N, .nil, gives⟩

theorem tracesAll_cons {e : Expr} {es : List Expr} (he : Traces proc Q m n e)
    (hes : TracesAll proc Q m n es) : TracesAll proc Q m n (e :: es) := by
  intro env names f all bs p q vs ns M j r code fitting ready le ended
  cases code with
  | cons one more =>
    obtain ⟨ff, fo, disjoint⟩ := fitting.both more.within_start
    obtain ⟨x, s, i, N, eval, left⟩ := he one ff ready le ended
    obtain ⟨j, rfl, later⟩ := left.steps.ends ended
    obtain ⟨xs, t, k, O, evalAll, right⟩ :=
      hes more fo (ready.on left.toComes left.stands) (by omega) later
    exact ⟨_, _, _, O, .cons eval evalAll,
      .cons left right fun n _ same => disjoint n (one.mem_names same)⟩

/-- The body of a function that is called has fewer steps left to it. -/
theorem traces_call (settled : Settled Q m) (calls : ∀ j < n, ∀ e, Traces proc Q m j e)
    {callee : String} {args : List Expr} (hargs : TracesAll proc Q m n args) :
    Traces proc Q m n (.call callee args l) := by
  intro env names f all bs p q v ns M j r code fitting ready le ended
  refine gives_of_evaluates settled code fitting ready ?_
  cases code with
  | call known arity args =>
    obtain ⟨xs, s, i, N, evalArgs, given⟩ := hargs args fitting.fewer.before ready le ended
    obtain ⟨j, rfl, later⟩ := given.steps.ends ended
    have module := given.module.trans ready.module
    obtain ⟨rest, here⟩ := given.stands.next fitting.whole fitting.within
    by_cases library : ∃ x, proc.library callee xs = some x
    · obtain ⟨x, known⟩ := library
      exact ⟨_, _, .library known evalArgs⟩
    have unknown := Option.eq_none_iff_forall_ne_some.mpr (not_exists.mp library)
    obtain ⟨ds, values, rfl⟩ := Activation.mapM_datum? given.values
    obtain ⟨F, found, takes⟩ := Option.map_eq_some_iff.mp arity
    cases defined : Q.definition? callee with
    | some d =>
      obtain ⟨mem, rfl⟩ := mem_of_definition? defined
      obtain ⟨g, b, body⟩ := settled.body mem
      cases found.symm.trans body.found
      obtain ⟨blocks, first⟩ := body.first
      obtain ⟨v, cs, r, ms, all', inner, fitting', -⟩ := body.code
      have length : (ds.map Datum.value).length = d.params.length := by
        have count := congrArg List.length given.values
        rw [List.length_map, List.length_map, args.length_eq] at count
        rw [← count, ← takes, body.arity]
      have enter := Machine.step_call here values unknown (module ▸ found) first
      obtain ⟨j, rfl, inside⟩ := (Machine.Steps.one enter).ends later
      obtain ⟨x, t, k, O, evalBody, -⟩ := calls j (by omega) d.body inner fitting'
        (body.entered module length _) (Nat.le_refl j) inside
      exact ⟨_, _, .call unknown defined length evalArgs evalBody⟩
    | none =>
      have step := Machine.step_external here values unknown (module ▸ found)
        (settled.declared defined found)
      rw [Process.external?_of_ordinary (settled.ordinary found)] at step
      cases replies : proc.outside? callee (ds.map Datum.value) with
      | some reply => exact ⟨_, _, .outside unknown defined replies evalArgs⟩
      | none =>
        rw [replies] at step
        exact absurd step (Machine.step_ne_stuck later)

theorem traces_conditional (settled : Settled Q m) {c t e : Expr} (hc : Traces proc Q m n c)
    (ht : Traces proc Q m n t) (he : Traces proc Q m n e) :
    Traces proc Q m n (.conditional c t e l) := by
  intro env names f all bs p q v ns M j r code fitting ready le ended
  refine gives_of_evaluates settled code fitting ready ?_
  cases code with
  | conditional codeC here codeT codeE =>
    obtain ⟨x, s, i, N, evalC, condition⟩ :=
      hc codeC (fitting.condition here).fewer.fewer.fewer.fewer ready le ended
    have hbranch : Traces proc Q m n (if isTrue x then t else e) := by
      cases isTrue x with
      | true => exact ht
      | false => exact he
    obtain ⟨w, ls, l, js, code, fl, -⟩ := fitting.branch codeT codeE (isTrue x)
    obtain ⟨k, O, front, stands⟩ :=
      condition.fork fitting.whole here (fitting.subset (by simp)) code fl
    obtain ⟨j, rfl, later⟩ := front.steps.ends ended
    obtain ⟨y, u, i, R, eval, -⟩ := hbranch code fl (ready.on front stands) (by omega) later
    exact ⟨_, _, .conditional evalC eval⟩

mutual

theorem traces_of_calls (settled : Settled Q m) (calls : ∀ j < n, ∀ e, Traces proc Q m j e) :
    (e : Expr) → Traces proc Q m n e
  | .number x _ => traces_number x
  | .var name _ => traces_var name
  | .binary _ lhs rhs _ =>
    traces_binary settled (traces_of_calls settled calls lhs) (traces_of_calls settled calls rhs)
  | .call _ args _ => traces_call settled calls (tracesAll_of_calls settled calls args)
  | .conditional c t e _ =>
    traces_conditional settled (traces_of_calls settled calls c)
      (traces_of_calls settled calls t) (traces_of_calls settled calls e)
  | .prototype _ | .function _ _ _ => nofun

theorem tracesAll_of_calls (settled : Settled Q m) (calls : ∀ j < n, ∀ e, Traces proc Q m j e) :
    (es : List Expr) → TracesAll proc Q m n es
  | [] => tracesAll_nil
  | e :: rest =>
    tracesAll_cons (traces_of_calls settled calls e) (tracesAll_of_calls settled calls rest)

end

/-- **A run that gives a value has evaluated the expression.** -/
theorem traces (settled : Settled Q m) (n : Nat) : ∀ e, Traces proc Q m n e := by
  induction n using Nat.strongRecOn with
  | ind n ih => exact traces_of_calls settled ih

/-! ### Functions without parameters -/

/-- A machine before the first block of a function without arguments. -/
def firstMachine (m : Module) (f : Function) (b : Block) : Machine :=
  { module := m, running := { function := f, args := [], block := b, instrs := b.instrs } }

theorem ofFunction?_eq {f : Function} {b : Block} {rest : List Block} (blocks : f.blocks = b :: rest) :
    Machine.ofFunction? m f = some (firstMachine m f b) := by
  rw [Machine.ofFunction?, Activation.ofCall?, blocks]
  rfl

theorem firstMachine_ready {d : Definition} {f : Function} {b : Block} (body : Body m d f b)
    (params : d.params = []) :
    Ready m d.params.zipIdx.reverse [] f ⟨b.label, [], []⟩ (firstMachine m f b) := by
  have ready := @Body.ready m d f b body (firstMachine m f b) [] rfl rfl (by rw [params]; rfl)
  have empty : d.bind [] = [] := by rw [Definition.bind, params]; rfl
  rwa [List.map_nil, empty] at ready

/-- At the end of the first call nothing is waiting. -/
theorem Returns.done {f : Function} {b : Block} {x : Float} {s : String} {k : Nat} {N : Machine}
    (h : Returns proc x s k (firstMachine m f b) N) :
    Machine.Steps proc k (firstMachine m f b) N ∧ N.step proc = .done x s := by
  obtain ⟨y, step, rfl⟩ := h.step
  refine ⟨h.steps, ?_⟩
  rw [step, Machine.giveBack, h.waiting, h.output]
  show Machine.Step.done y.value ("" ++ s) = _
  rw [String.empty_append]

/-- **A function without parameters comes to a result if and only if its body evaluates to
it**, and the same text is written. -/
theorem Settled.result?_iff (h : Settled Q m) {d : Definition} (mem : d ∈ Q)
    (params : d.params = []) (x : Float) (s : String) :
    m.result? proc d.name = some ⟨x, s⟩ ↔ d.body.Evaluates proc Q [] x s := by
  obtain ⟨f, b, body⟩ := h.body mem
  obtain ⟨rest, first⟩ := body.first
  obtain ⟨v, bs, q, ns, all, code, fitting, ret⟩ := body.code
  have ready := firstMachine_ready body params
  rw [Module.result?, body.found, Option.bind_some, ofFunction?_eq first, Option.bind_some,
    Machine.finish_eq_some_iff]
  constructor
  · rintro ⟨n, ended⟩
    obtain ⟨y, t, k, N, eval, gives⟩ := traces h n d.body code fitting ready (Nat.le_refl n) ended
    obtain ⟨steps, done⟩ := (gives.returns fitting.whole ret).done
    obtain ⟨j, rfl, last⟩ := steps.ends ended
    cases Machine.ends_of_done done last
    exact eval
  · intro eval
    obtain ⟨k, N, gives⟩ := computes_of_evaluates h eval code fitting ready
    obtain ⟨steps, done⟩ := (gives.returns fitting.whole ret).done
    exact ⟨k, N, steps, done⟩

end

end Lowering

end Reckoner

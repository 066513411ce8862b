import Reckoner.Proofs.Lowering.Execution

/-! How the code of an expression runs, from how its parts do.

Code stands somewhere in a function (`Fitting`), with a machine in front of it that holds
the arguments (`Ready`). When the parts of an expression come to their ends with their
values, so does the expression: one lemma for each instruction that is behind its parts. -/
namespace Reckoner.Lowering
open IR

/-! ### The setting -/

variable {proc : Process}

/-- Some code, up to the place `q`, stands in a function. -/
structure Fitting (f : Function) (all bs : List Piece) (q : Point) (ns : List String) : Prop where
  whole : Whole f all
  subset : bs ⊆ all
  within : q.Within f
  nodup : ns.Nodup

namespace Fitting
variable {f : Function} {all bs cs : List Piece} {q r : Point} {ns ms : List String}

theorem before {i : Instr} (h : Fitting f all bs (q.push i) ns) : Fitting f all bs q ns :=
  ⟨h.whole, h.subset, h.within.before, h.nodup⟩

theorem fewer (h : Fitting f all bs q (ns ++ ms)) : Fitting f all bs q ns :=
  ⟨h.whole, h.subset, h.within, (List.nodup_append.mp h.nodup).1⟩

/-- Two codes one behind the other. -/
theorem both (h : Fitting f all (bs ++ cs) r (ns ++ ms))
    (back : (∀ c ∈ cs, c.last.Within f) → r.Within f → q.Within f) :
    Fitting f all bs q ns ∧ Fitting f all cs r ms ∧ ∀ n ∈ ns, n ∉ ms := by
  obtain ⟨hb, hc⟩ := List.append_subset.mp h.subset
  obtain ⟨hn, hm, disjoint⟩ := List.nodup_append.mp h.nodup
  have start := back (fun c mem => h.whole.within (hc mem)) h.within
  exact ⟨⟨h.whole, hb, start, hn⟩, ⟨h.whole, hc, h.within, hm⟩,
    fun n inN inM => disjoint n inN n inM rfl⟩

end Fitting

/-- A machine is in front of a place, with the arguments that parameters stand for. -/
structure Ready (m : Module) (names : List (String × Nat)) (env : Bindings) (f : Function)
    (p : Point) (M : Machine) : Prop where
  module : M.module = m
  stands : Stands M f p
  binds : ∀ n i, names.lookup n = some i →
    ∃ x, M.running.args[i]? = some x ∧ env.lookup n = some x.value

theorem Ready.on {m : Module} {names : List (String × Nat)} {env : Bindings} {f : Function}
    {p q : Point} {M N : Machine} {ns : List String} {s : String} {k : Nat}
    (h : Ready m names env f p M) (comes : Comes proc ns s k M N) (stands : Stands N f q) :
    Ready m names env f q N :=
  ⟨comes.module.trans h.module, stands, fun n i found => comes.args ▸ h.binds n i found⟩

/-- A machine comes to a place where operands have values. -/
structure GivesAll (proc : Process) (f : Function) (q : Point) (vs : List Operand)
    (xs : List Float) (ns : List String) (s : String) (k : Nat) (M N : Machine) : Prop
    extends Comes proc ns s k M N where
  stands : Stands N f q
  values : vs.map N.running.value? = xs.map some

section
variable {arity? : String → Option Nat} {names : List (String × Nat)}

theorem Code.mem_names {p q : Point} {e : Expr} {v : Operand} {bs : List Piece} {ns : List String}
    (h : Code arity? names p e v bs q ns) {n : String} {type : Ty} (result : v = .result n type) :
    n ∈ ns := by
  cases h <;> cases result <;> simp

theorem Code.within_start {f : Function} {p q : Point} {e : Expr} {v : Operand} {bs : List Piece}
    {ns : List String} (h : Code arity? names p e v bs q ns) :
    (∀ c ∈ bs, c.last.Within f) → q.Within f → p.Within f :=
  @Code.backward _ _ (Point.Within · f) (fun _ _ => Point.Within.before) _ _ _ _ _ _ h

theorem CodeAll.within_start {f : Function} {p q : Point} {es : List Expr} {vs : List Operand}
    {bs : List Piece} {ns : List String} (h : CodeAll arity? names p es vs bs q ns) :
    (∀ c ∈ bs, c.last.Within f) → q.Within f → p.Within f :=
  @CodeAll.backward _ _ (Point.Within · f) (fun _ _ => Point.Within.before) _ _ _ _ _ _ h

end

/-! ### Putting parts together -/

section
variable {f : Function} {all bs : List Piece} {p q r : Point} {u v : Operand} {x y : Float}
  {ns ms : List String} {s t : String} {j k : Nat} {M N O : Machine}

/-- The operand of the first part keeps its value in the second one. -/
theorem Gives.keep (first : Gives proc f q u x ns s j M N) (second : Comes proc ms t k N O)
    (clear : ∀ n type, u = .result n type → n ∉ ms) : O.running.value? u = some x :=
  (second.value?_eq clear).trans first.value

theorem Gives.arithmetic (whole : Whole f all) (first : Gives proc f q u x ns s j M N)
    (second : Gives proc f r v y ms t k N O)
    (clear : ∀ n type, u = .result n type → n ∉ ms) {n : String} {op : Arithmetic} (within : (r.push (.arithmetic n op u v)).Within f) :
    ∃ k N, Gives proc f (r.push (.arithmetic n op u v)) (.result n .double) (op.value x y)
      (ns ++ ms ++ [n]) (s ++ t) k M N := by
  obtain ⟨P, last⟩ := second.stands.arithmetic whole within (first.keep second.toComes clear)
    second.value
  have gives := Gives.after (first.toComes.trans second.toComes) last
  rw [String.append_empty] at gives
  exact ⟨_, P, gives⟩

theorem Gives.less (whole : Whole f all) (first : Gives proc f q u x ns s j M N)
    (second : Gives proc f r v y ms t k N O) (clear : ∀ n type, u = .result n type → n ∉ ms)
    {flag n : String}
    (within : ((r.push (.compare flag .lessOrUnordered u v)).push
      (.widen n (.result flag .flag))).Within f) :
    ∃ k N, Gives proc f ((r.push (.compare flag .lessOrUnordered u v)).push
        (.widen n (.result flag .flag))) (.result n .double)
      (if x.isNaN || y.isNaN || x < y then 1.0 else 0.0) (ns ++ ms ++ [flag, n]) (s ++ t) k M N := by
  obtain ⟨P, comes, stands, holds⟩ := second.stands.compare whole within.before
    (first.keep second.toComes clear) second.value
  obtain ⟨P', last⟩ := stands.widen whole within holds
  have gives := Gives.after ((first.toComes.trans second.toComes).trans comes) last
  rw [String.append_empty, String.append_empty, List.append_assoc] at gives
  exact ⟨_, P', gives⟩

theorem GivesAll.cons {vs : List Operand} {xs : List Float} (first : Gives proc f q u x ns s j M N)
    (others : GivesAll proc f r vs xs ms t k N O) (clear : ∀ n type, u = .result n type → n ∉ ms) :
    GivesAll proc f r (u :: vs) (x :: xs) (ns ++ ms) (s ++ t) (j + k) M O where
  toComes := first.toComes.trans others.toComes
  stands := others.stands
  values := by
    rw [List.map_cons, List.map_cons, first.keep others.toComes clear, others.values]

/-- A call that the process has a value for by the name of the callee. -/
theorem GivesAll.library {callee n : String} {vs : List Operand} {xs : List Float}
    (whole : Whole f all) (given : GivesAll proc f q vs xs ns s j M N)
    (known : proc.library callee xs = some x) (within : (q.push (.call n callee vs)).Within f) :
    ∃ k N, Gives proc f (q.push (.call n callee vs)) (.result n .double) x (ns ++ [n]) s k M N := by
  obtain ⟨rest, here⟩ := given.stands.next whole within
  obtain ⟨ds, values, rfl⟩ := Activation.mapM_datum? given.values
  have gives := Gives.after given.toComes
    (given.stands.gives here (Machine.step_library here values known))
  rw [String.append_empty] at gives
  exact ⟨_, _, gives⟩

/-- A call of a function that has no body. -/
theorem GivesAll.outside {m : Module} {callee n : String} {vs : List Operand} {xs : List Float}
    {d : Function} (whole : Whole f all) (given : GivesAll proc f q vs xs ns s j M N)
    (unknown : proc.library callee xs = none) (module : N.module = m)
    (found : m.function? callee = some d) (declared : d.blocks = [])
    (ordinary : isReserved callee = false) (replies : proc.outside? callee xs = some (x, t))
    (within : (q.push (.call n callee vs)).Within f) :
    ∃ k N, Gives proc f (q.push (.call n callee vs)) (.result n .double) x (ns ++ [n]) (s ++ t)
      k M N := by
  obtain ⟨rest, here⟩ := given.stands.next whole within
  obtain ⟨ds, values, rfl⟩ := Activation.mapM_datum? given.values
  have step := Machine.step_external here values unknown (module ▸ found) declared
  rw [Process.external?_of_ordinary ordinary, replies] at step
  exact ⟨_, _, .after given.toComes (given.stands.gives here step)⟩

/-- A call of a function with a body. -/
theorem GivesAll.call {callee n : String} {vs : List Operand} {xs : List Float} {ds : List Datum}
    {d : Function} {b : Block} {blocks : List Block} (whole : Whole f all)
    (given : GivesAll proc f q vs xs ns s j M N) (values : vs.mapM N.running.datum? = some ds)
    (unknown : proc.library callee (ds.map (·.value)) = none)
    (found : N.module.function? callee = some d) (first : d.blocks = b :: blocks)
    (returns : Returns proc x t k (entered N n d b (ds.map (·.double))) O)
    (within : (q.push (.call n callee vs)).Within f) :
    ∃ k N, Gives proc f (q.push (.call n callee vs)) (.result n .double) x
      (ns ++ [n]) (s ++ t) k M N := by
  obtain ⟨P, last⟩ := given.stands.call whole within values unknown found first returns
  exact ⟨_, P, .after given.toComes last⟩

/-- The branch of a conditional that is taken: its code starts behind the fork, and the
place where both meet knows the operand that holds its value. -/
theorem Fitting.branch {arity? : String → Option Nat} {names : List (String × Nat)}
    {fork : Point} {t e : Expr} {y z : Operand} {cs ds : List Piece} {ks : List String} {o : Operand}
    {flag yes no join n : String}
    (h : Fitting f all (bs ++ ⟨fork, .branch o yes no⟩ :: (cs ++ ⟨p, .jump join⟩ ::
        (ds ++ [⟨q, .jump join⟩]))) r (ns ++ [flag, yes, no, join] ++ ms ++ ks ++ [n]))
    (ht : Code arity? names ⟨yes, fork.known, []⟩ t y cs p ms)
    (he : Code arity? names ⟨no, fork.known, []⟩ e z ds q ks) (taken : Bool) :
    ∃ v ls k js, Code arity? names ⟨if taken then yes else no, fork.known, []⟩
        (if taken then t else e) v ls k js ∧
      Fitting f all ls k js ∧ ⟨k, .jump join⟩ ∈ all ∧ js ⊆ ms ++ ks ∧
      [(y, p.label), (z, q.label)].find? (fun i => some k.label = some i.2) = some (v, k.label) := by
  obtain ⟨-, -, hcs, hp, hds, hq⟩ := conditional_subset h.subset
  obtain ⟨-, hms, hks⟩ := conditional_nodup h.nodup
  cases taken with
  | true =>
    refine ⟨y, cs, p, ms, ht, ⟨h.whole, hcs, h.whole.within hp, hms⟩, hp,
      List.subset_append_left _ _, ?_⟩
    simp
  | false =>
    have differ := exits_ne ht he h.nodup rfl rfl
    refine ⟨z, ds, q, ks, he, ⟨h.whole, hds, h.whole.within hq, hks⟩, hq,
      List.subset_append_right _ _, ?_⟩
    simp [differ.symm]

/-- The code of the condition of a conditional. -/
theorem Fitting.condition {fork : Point} {o : Operand} {yes no : String} {rest : List Piece}
    {i : Instr} (h : Fitting f all (bs ++ ⟨fork, .branch o yes no⟩ :: rest) r ns)
    (here : fork = q.push i) : Fitting f all bs q ns := by
  obtain ⟨hb, rest⟩ := List.append_subset.mp h.subset
  have within := h.whole.within (rest List.mem_cons_self)
  dsimp only at within
  rw [here] at within
  exact ⟨h.whole, hb, within.before, h.nodup⟩

/-- From the condition to the branch that is taken. -/
theorem Gives.fork {arity? : String → Option Nat} {names : List (String × Nat)} {fork : Point}
    {e : Expr} {ls : List Piece} {l : Point} {js : List String} {w : Operand}
    (whole : Whole f all) (condition : Gives proc f q u x ns s j M N) {flag yes no : String}
    (here : fork = q.push (.compare flag .orderedAndUnequal u (.const (0.0 : Float))))
    (mem : ⟨fork, .branch (.result flag .flag) yes no⟩ ∈ all)
    (code : Code arity? names ⟨if isTrue x then yes else no, fork.known, []⟩ e w ls l js)
    (fitting : Fitting f all ls l js) :
    ∃ k N, Comes proc (ns ++ [flag]) s k M N ∧
      Stands N f ⟨if isTrue x then yes else no, fork.known, []⟩ := by
  have within := code.within_start (fun c hc => whole.within (fitting.subset hc)) fitting.within
  obtain ⟨P, more, stands⟩ := condition.stands.fork whole here mem condition.value within
  have comes := condition.toComes.trans more
  rw [String.append_empty] at comes
  exact ⟨_, P, comes, stands⟩

/-- From the end of the branch that is taken to where both meet. -/
theorem Gives.join (whole : Whole f all) (front : Comes proc ns s j M N)
    (branch : Gives proc f q u x ms t k N O) {join n : String} {start : List (String × Ty)}
    {incoming : List (Operand × String)} (mem : ⟨q, .jump join⟩ ∈ all)
    (within : (Point.mk join start [.phi n incoming]).Within f)
    (chosen : incoming.find? (fun i => some q.label = some i.2) = some (u, q.label)) :
    ∃ k N, Gives proc f ⟨join, start, [.phi n incoming]⟩ (.result n .double) x (ns ++ ms ++ [n])
      (s ++ t) k M N := by
  obtain ⟨P, last⟩ := branch.stands.join whole mem within branch.value chosen
  have gives := Gives.after (front.trans branch.toComes) last
  rw [String.append_empty] at gives
  exact ⟨_, P, gives⟩

end

end Reckoner.Lowering

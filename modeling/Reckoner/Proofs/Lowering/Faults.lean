import Reckoner.Proofs.Lowering.Effect

/-! The faults of a statement, told without lowering it.

What is wrong with an expression follows from the parameters in scope and from the number
of arguments that functions take (`faultsIn`), and what is wrong with a statement follows
from what the module holds under its name besides (`faultsAt`). Lowering a statement finds the
first fault of these, if there is one, and records it; otherwise it succeeds (`lower_records`).
Local names, blocks and bodies play no part in this: where a module is a register, the status of
names tells it all (`faultsOf`, `Settled.finds`). -/
namespace Reckoner

namespace IR

/-- How many arguments a function takes that is declared or defined. -/
def Status.arity? : Status → Option Nat
  | absent => none
  | declared n | defined n => some n

theorem Function.arity?_status (f : Function) : f.status.arity? = some f.arity := by
  unfold status
  split <;> rfl

theorem Module.arity?_eq (m : Module) (name : String) : m.arity? name = (m.status name).arity? := by
  unfold arity? status
  cases m.function? name with
  | none => rfl
  | some f => exact f.arity?_status.symm

end IR

namespace Lowering
open IR

/-! ### What is wrong with a tree -/

/-- What is wrong with a call of so many arguments, apart from these. -/
def callFaults (arity? : String → Option Nat) (callee : String) (count : Nat)
    (l : Option Location) : List Fault :=
  match arity? callee with
  | none => [⟨.unknownFunction callee, l⟩]
  | some n => if n = count then [] else [⟨.argumentCount callee n count, l⟩]

section
variable (arity? : String → Option Nat) (params : List String)

mutual

/-- What is wrong with an expression in a function with these parameters: a tree comes
before its parts, and parts come from left to right. -/
def faultsIn : Expr → List Fault
  | .var name l => if name ∈ params then [] else [⟨.unknownVariable name, l⟩]
  | .binary operator lhs rhs l =>
    (if (Operation.ofString? operator).isSome then [] else [⟨.unknownOperator operator, l⟩]) ++
      (faultsIn lhs ++ faultsIn rhs)
  | .call callee args l => callFaults arity? callee args.length l ++ faultsInAll args
  | .conditional c t e _ => faultsIn c ++ (faultsIn t ++ faultsIn e)
  | .number _ _ | .prototype _ | .function _ _ _ => []

def faultsInAll : List Expr → List Fault
  | [] => []
  | e :: rest => faultsIn e ++ faultsInAll rest

end

end

/-- What is wrong with a prototype for a name of some status. That there is a body already
is reported at `l`. -/
def headFaults (p : Prototype) (l : Option Location) : Status → List Fault
  | .absent => []
  | .declared n =>
    if n = p.params.length then [] else [⟨.argumentCount p.name n p.params.length, p.location⟩]
  | .defined _ => [⟨.redefined p.name, l⟩]

/-- The numbers of arguments that the body of a function goes by: it may call the
function itself. -/
def arityWithin (status : String → Status) (p : Prototype) (name : String) : Option Nat :=
  if name = p.name then some p.params.length else (status name).arity?

/-- A bare expression takes the place of the one before it. -/
def replaces (m : Module) (p : Prototype) : Bool :=
  p.isAnonymous && (m.function? p.name).any (!·.isDeclaration)

/-- What stands in the way of a function under a prototype. -/
def headingFaults (m : Module) (p : Prototype) (l : Option Location) : List Fault :=
  match m.find? p.name with
  | none => []
  | some (.cell _) => [⟨.redefined p.name, p.location⟩]
  | some (.function f) => headFaults p l f.status

/-- What is wrong with a statement in a module, whatever that holds. -/
def faultsAt (m : Module) : Expr → List Fault
  | .prototype p => headingFaults m p p.location
  | .function p body l =>
    (if replaces m p then [] else headingFaults m p l) ++
      faultsIn (arityWithin m.status p) p.params body
  | _ => []

/-- What is wrong with a statement, by the status of names. A bare expression has no name to be
taken. -/
def faultsOf (status : String → Status) : Expr → List Fault
  | .prototype p => headFaults p p.location (status p.name)
  | .function p body l =>
    (if p.isAnonymous then [] else headFaults p l (status p.name)) ++
      faultsIn (arityWithin status p) p.params body
  | _ => []

/-- Nothing is wrong with a prototype if and only if it can be declared. -/
theorem headFaults_eq_nil_iff {p : Prototype} {l : Option Location} {s : Status} :
    headFaults p l s = [] ↔ s.IsOpen p.params.length := by
  cases s with
  | absent => exact iff_of_true rfl trivial
  | declared n =>
    rw [headFaults, ite_eq_left_iff]
    simp [Status.IsOpen]
  | defined n => exact iff_of_false (List.cons_ne_nil _ _) id

/-! ### Expressions -/

/-- The function being written is the same one, with the same names in scope. -/
structure Site.Stays (s t : Site) : Prop where
  names : t.names = s.names
  name : t.function.name = s.function.name

theorem Site.Stays.trans {s t u : Site} (h : s.Stays t) (k : t.Stays u) : s.Stays u :=
  ⟨k.names.trans h.names, k.name.trans h.name⟩

section Checks
variable {α β : Type} {m : Module} {s : Site} {l l' : List Fault}

/-- A step within a function finds the first of the faults `l`, if there is one; otherwise
it gives a value that satisfies `post`. -/
def Checks (m : Module) (x : Lower α) (s : Site) (l : List Fault) (post : α → Prop) : Prop :=
  ∀ g : Generator, g.module = m → g.site = some s →
    (∃ a t, x g = .ok a { g with site := some t } ∧ s.Stays t ∧ l = [] ∧ post a) ∨
      ∃ t fault rest,
        x g = .error .refused { g with site := some t, faults := g.faults.push fault } ∧
          s.Stays t ∧ l = fault :: rest

theorem Checks.pure {post : α → Prop} {a : α} (h : post a) : Checks m (pure a) s [] post := by
  intro g _ site
  refine .inl ⟨a, s, ?_, ⟨rfl, rfl⟩, rfl, h⟩
  rw [← site]
  rfl

theorem Checks.refuse {post : α → Prop} (cause : Cause) (place : Option Location) :
    Checks m (refuse cause place) s (⟨cause, place⟩ :: l) post := by
  intro g _ site
  refine .inr ⟨s, ⟨cause, place⟩, l, ?_, ⟨rfl, rfl⟩, rfl⟩
  rw [← site]
  rfl

/-- One step after the other. -/
theorem Checks.bind {x : Lower α} {f : α → Lower β} {mid : α → Prop} {post : β → Prop}
    (hx : Checks m x s l mid) (hf : ∀ a t, s.Stays t → mid a → Checks m (f a) t l' post) :
    Checks m (x >>= f) s (l ++ l') post := by
  intro g module site
  rcases hx g module site with ⟨a, t, run, stays, rfl, h⟩ | ⟨t, fault, rest, run, stays, rfl⟩
  · have next : (x >>= f) g = f a { g with site := some t } := by
      simp only [Bind.bind, EStateM.bind, run]
    rw [next]
    rcases hf a t stays h { g with site := some t } module rfl with
      ⟨b, u, run, more, last⟩ | ⟨u, fault, rest, run, more, first⟩
    · exact .inl ⟨b, u, run, stays.trans more, last⟩
    · exact .inr ⟨u, fault, rest, run, stays.trans more, first⟩
  · refine .inr ⟨t, fault, rest ++ l', ?_, stays, rfl⟩
    simp only [Bind.bind, EStateM.bind, run]

/-- A step that cannot fail, and another one. -/
theorem Checks.next {x : Lower α} {f : α → Lower β} {mid : α → Prop} {post : β → Prop}
    (hx : Checks m x s [] mid) (hf : ∀ a t, s.Stays t → mid a → Checks m (f a) t l post) :
    Checks m (x >>= f) s l post :=
  hx.bind hf

theorem Checks.onSite {change : Site → α × Site} {post : α → Prop} (stays : s.Stays (change s).2)
    (h : post (change s).1) : Checks m (onSite change) s [] post := by
  intro g _ site
  refine .inl ⟨(change s).1, (change s).2, ?_, stays, rfl, h⟩
  unfold Lowering.onSite
  rw [site]

theorem Checks.requireFunction (construct : Construct) (place : Option Location) :
    Checks m (requireFunction construct place) s [] fun _ => True := by
  intro g _ site
  refine .inl ⟨(), s, ?_, ⟨rfl, rfl⟩, rfl, trivial⟩
  unfold Lowering.requireFunction
  rw [site, if_pos (by rfl), ← site]

theorem checks_emit (base : String) (type : Ty) (instr : String → Instr) :
    Checks m (emit base type instr) s [] fun v => v.type = type :=
  .onSite ⟨rfl, rfl⟩ rfl

theorem checks_newBlock (base : String) : Checks m (newBlock base) s [] fun _ => True :=
  .onSite ⟨rfl, rfl⟩ trivial

theorem checks_enter (label : String) : Checks m (enter label) s [] fun _ => True :=
  .onSite ⟨rfl, rfl⟩ trivial

theorem checks_leave (t : Terminator) : Checks m (leave t) s [] fun _ => True :=
  .onSite ⟨rfl, rfl⟩ trivial

theorem checks_checkCall (callee : String) (count : Nat) (place : Option Location) :
    Checks m (checkCall callee count place) s (callFaults m.arity? callee count place)
      fun _ => True := by
  rintro g rfl site
  unfold checkCall callFaults
  cases found : g.module.function? callee with
  | none =>
    simp only [Module.arity?, found, Option.map_none]
    exact Checks.refuse _ _ g rfl site
  | some f =>
    simp only [Module.arity?, found, Option.map_some]
    by_cases fits : f.arity = count
    · rw [if_neg (not_not_intro fits), if_pos fits]
      exact Checks.requireFunction .call place g rfl site
    · rw [if_pos fits, if_neg fits]
      exact Checks.refuse _ _ g rfl site

theorem checks_operate (operation : Operation) {x y : Operand} (hx : x.type = .double)
    (hy : y.type = .double) :
    Checks m (operate operation x y) s [] fun v => v.type = .double := by
  cases operation with
  | arithmetic op =>
    rw [operate, if_neg (not_not_intro (hx.trans hy.symm)), hx]
    exact checks_emit _ _ _
  | less => exact (checks_emit _ _ _).next fun _ _ _ _ => checks_emit _ _ _

theorem firstOther_eq_none {xs : List Operand} (h : ∀ x ∈ xs, x.type = .double) (index : Nat) :
    firstOther index xs = none := by
  induction xs generalizing index with
  | nil => rfl
  | cons x rest ih =>
    rw [firstOther, if_pos (h x List.mem_cons_self)]
    exact ih (fun y hy => h y (List.mem_cons_of_mem _ hy)) _

end Checks

section Trees
variable (m : Module) (names : List (String × Nat)) (params : List String)

/-- The names that can be looked up are the parameters. -/
def Scopes : Prop :=
  ∀ n, (names.lookup n).isSome = true ↔ n ∈ params

/-- Lowering an expression finds what is wrong with it. -/
def Finds (e : Expr) : Prop :=
  ∀ {s : Site}, s.names = names →
    Checks m (lower e) s (faultsIn m.arity? params e) fun v => v.type = .double

def FindsAll (es : List Expr) : Prop :=
  ∀ {s : Site}, s.names = names →
    Checks m (lowerAll es) s (faultsInAll m.arity? params es) fun vs => ∀ v ∈ vs, v.type = .double

variable {m names params}

theorem finds_var (scope : Scopes names params) (n : String) (l : Option Location) :
    Finds m names params (.var n l) := by
  intro s same g module site
  simp only [lower, lowerVariable, faultsIn, site, Option.bind_some, same]
  cases found : names.lookup n with
  | none =>
    have unknown : n ∉ params := by
      rw [← scope n, found]
      exact Bool.false_ne_true
    rw [if_neg unknown]
    exact Checks.refuse _ _ g module site
  | some i =>
    have known : n ∈ params := by
      rw [← scope n, found]
      rfl
    rw [if_pos known]
    exact .inl ⟨.param i, s, by rw [← site], ⟨rfl, rfl⟩, rfl, rfl⟩

theorem finds_binary {op : String} {lhs rhs : Expr} {l : Option Location}
    (hl : Finds m names params lhs) (hr : Finds m names params rhs) :
    Finds m names params (.binary op lhs rhs l) := by
  intro s same
  simp only [lower, faultsIn]
  cases Operation.ofString? op with
  | none => exact .refuse _ _
  | some operation =>
    refine (Checks.requireFunction _ _).next fun _ s₁ g₁ _ => ?_
    have names₁ := g₁.names.trans same
    refine (hl names₁).bind fun x s₂ g₂ hx => ?_
    rw [← List.append_nil (faultsIn m.arity? params rhs)]
    exact (hr (g₂.names.trans names₁)).bind fun y s₃ _ hy => checks_operate operation hx hy

theorem findsAll_nil : FindsAll m names params [] := by
  intro s _
  simp only [lowerAll]
  exact .pure (List.forall_mem_nil _)

theorem findsAll_cons {e : Expr} {es : List Expr} (he : Finds m names params e)
    (hes : FindsAll m names params es) : FindsAll m names params (e :: es) := by
  intro s same
  simp only [lowerAll, faultsInAll]
  refine (he same).bind fun v t stays hv => ?_
  rw [← List.append_nil (faultsInAll m.arity? params es)]
  refine (hes (stays.names.trans same)).bind fun vs u _ hvs => ?_
  exact .pure (List.forall_mem_cons.mpr ⟨hv, hvs⟩)

theorem finds_call {callee : String} {args : List Expr} {l : Option Location}
    (hargs : FindsAll m names params args) : Finds m names params (.call callee args l) := by
  intro s same
  simp only [lower, faultsIn]
  refine (checks_checkCall callee args.length l).bind fun _ t stays _ => ?_
  rw [← List.append_nil (faultsInAll m.arity? params args)]
  refine (hargs (stays.names.trans same)).bind fun xs u _ doubles => ?_
  rw [invoke, firstOther_eq_none doubles]
  exact checks_emit _ _ _

theorem checks_branch {e : Expr} {s : Site} (he : Finds m names params e) (same : s.names = names)
    (position : Position) (l : Option Location) (join : String) :
    Checks m (lowerBranch position l join (lower e)) s (faultsIn m.arity? params e)
      fun _ => True := by
  rw [← List.append_nil (faultsIn m.arity? params e)]
  refine (he same).bind fun v t _ hv => ?_
  rw [hv, if_neg (not_not_intro rfl)]
  exact (checks_leave _).next fun _ _ _ _ => .pure trivial

theorem finds_conditional {c t e : Expr} {l : Option Location} (hc : Finds m names params c)
    (ht : Finds m names params t) (he : Finds m names params e) :
    Finds m names params (.conditional c t e l) := by
  intro s same
  simp only [lower, lowerConditional, faultsIn]
  refine (Checks.requireFunction _ _).next fun _ s₁ g₁ _ => ?_
  have names₁ := g₁.names.trans same
  refine (hc names₁).bind fun x s₂ g₂ hx => ?_
  rw [hx, if_neg (not_not_intro rfl)]
  refine (checks_emit _ _ _).next fun _ s₃ g₃ _ => ?_
  refine (checks_newBlock _).next fun _ s₄ g₄ _ => ?_
  refine (checks_newBlock _).next fun _ s₅ g₅ _ => ?_
  refine (checks_newBlock _).next fun _ s₆ g₆ _ => ?_
  refine (checks_leave _).next fun _ s₇ g₇ _ => ?_
  refine (checks_enter _).next fun _ s₈ g₈ _ => ?_
  have names₈ := (((((g₂.trans g₃).trans g₄).trans g₅).trans g₆).trans g₇).trans g₈
    |>.names.trans names₁
  refine (checks_branch ht names₈ _ _ _).bind fun _ s₉ g₉ _ => ?_
  refine (checks_enter _).next fun _ s₁₀ g₁₀ _ => ?_
  rw [← List.append_nil (faultsIn m.arity? params e)]
  refine (checks_branch he ((g₉.trans g₁₀).names.trans names₈) _ _ _).bind fun _ s₁₁ g₁₁ _ => ?_
  exact (checks_enter _).next fun _ _ _ _ => checks_emit _ _ _

mutual

/-- **Lowering an expression finds the first thing that is wrong with it.** -/
theorem lower_finds (scope : Scopes names params) :
    (e : Expr) → e.IsBody → Finds m names params e
  | .number _ _, _ => fun _ => .pure rfl
  | .var n l, _ => finds_var scope n l
  | .binary _ lhs rhs _, h => finds_binary (lower_finds scope lhs h.1) (lower_finds scope rhs h.2)
  | .call _ args _, h => finds_call (lowerAll_finds scope args h)
  | .conditional c t e _, h =>
    finds_conditional (lower_finds scope c h.1) (lower_finds scope t h.2.1)
      (lower_finds scope e h.2.2)

theorem lowerAll_finds (scope : Scopes names params) :
    (es : List Expr) → Expr.AreBodies es → FindsAll m names params es
  | [], _ => findsAll_nil
  | e :: rest, h => findsAll_cons (lower_finds scope e h.1) (lowerAll_finds scope rest h.2)

end

end Trees

/-! ### Statements -/

/-- A statement has recorded the first of the faults `l`, if there is one; otherwise it
has succeeded with the value `v`. Before it, `faults` had been recorded. -/
inductive Records (faults : Array Fault) (v : Operand) :
    List Fault → EStateM.Result Stop Generator Operand → Prop where
  | accepted {k : Generator} : k.Idle → k.faults = faults → Records faults v [] (.ok v k)
  | refused {x : Fault} {rest : List Fault} {k : Generator} : k.Idle → k.faults = faults.push x →
    Records faults v (x :: rest) (.error .refused k)

theorem scopes_params (params : List String) : Scopes params.zipIdx.reverse params := by
  intro n
  rw [List.lookup_isSome_iff]
  conv_rhs => rw [← List.zipIdx_map_fst 0 params, List.mem_map]
  refine exists_congr fun p => and_congr List.mem_reverse ?_
  rw [beq_iff_eq, eq_comm]

section Statements
variable {g : Generator} {p : Prototype} {P : Program}

theorem status_of_find? {m : Module} {f : Function} {name : String}
    (found : m.find? name = some (.function f)) : m.status name = f.status := by
  rw [Module.status, Module.function?_eq_some_iff.mpr found]
  rfl

/-- Under a prototype that nothing is wrong with there is no cell. -/
theorem ne_cell_of_headingFaults {m : Module} {l : Option Location} (clean : headingFaults m p l = [])
    (c : String) : m.find? p.name ≠ some (.cell c) := by
  intro found
  rw [headingFaults, found] at clean
  cases clean

/-- The function under a prototype that nothing is wrong with. -/
theorem arity_heading_of_headingFaults {m : Module} {l : Option Location}
    (clean : headingFaults m p l = []) : (heading m p).arity = p.params.length := by
  unfold heading
  rw [Function.arity_rename]
  cases found : m.function? p.name with
  | none => exact Function.arity_declare _ _
  | some f =>
    rw [headingFaults, Module.function?_eq_some_iff.mp found, headFaults_eq_nil_iff] at clean
    rw [Option.getD_some]
    by_cases declared : f.blocks = []
    · rwa [f.status_of_nil declared] at clean
    · rw [f.status_of_ne_nil declared] at clean
      exact clean.elim

/-- A prototype is declared if nothing is wrong with it; otherwise the fault is recorded. -/
theorem declare_cases (idle : g.Idle) (named : p.name ≠ "") :
    (headingFaults g.module p p.location = [] ∧ declare p g =
      .ok (.function p.name p.params.length) { g with module := g.module.set (heading g.module p) }) ∨
    ∃ x, headingFaults g.module p p.location = [x] ∧
      declare p g = .error .refused { g with faults := g.faults.push x } := by
  unfold headingFaults
  cases found : g.module.find? p.name with
  | none => exact .inl ⟨rfl, declare_of_none named found⟩
  | some global =>
    cases global with
    | cell c => exact .inr ⟨_, rfl, declare_of_cell found⟩
    | function f =>
      by_cases admits : f.blocks = [] ∧ f.arity = p.params.length
      · refine .inl ⟨headFaults_eq_nil_iff.mpr ?_, declare_of_some idle found admits.1 admits.2⟩
        rw [f.status_of_nil admits.1]
        exact admits.2
      · refine .inr ⟨_, ?_, declare_refused idle found admits⟩
        dsimp only
        by_cases declared : f.blocks = []
        · have other : f.arity ≠ p.params.length := fun fits => admits ⟨declared, fits⟩
          have bare : f.isDeclaration = true := by simp [Function.isDeclaration, declared]
          rw [f.status_of_nil declared, bare, headFaults, if_neg other, if_pos rfl]
        · have written : f.isDeclaration = false := by simpa [Function.isDeclaration] using declared
          rw [f.status_of_ne_nil declared, written, headFaults, if_neg Bool.false_ne_true]

/-- A function that has been written in part is taken back, whatever stands in its module. -/
theorem takeBack_refuses {m : Module} {t : Site} (idle : g.Idle) (there : p.name ∈ m.names)
    (declared : Bool) (faults : Array Fault) :
    ∃ k, Generator.takeBack { module := m, site := some t, unfinished := [p.name], faults } p.name
      declared = .error .refused { g with module := k, faults } := by
  have here : ((m.put t.function).find? p.name).isSome = true := by
    rwa [Module.isSome_find?_iff, Module.names_put]
  simp only [Generator.takeBack, Generator.close, Generator.suspend, here, List.contains_cons,
    beq_self_eq_true, Bool.true_or, Bool.not_true, Bool.false_eq_true, if_false, if_true,
    List.erase_cons_head, idle.site, idle.unfinished]
  cases declared <;> exact ⟨_, rfl⟩

/-- The body of a declared function is written, unless something is wrong with it. -/
theorem writeBody_records {m : Module} {F : Function} {body : Expr} (idle : g.Idle)
    (found : m.function? p.name = some F) (term : body.IsBody) (declared : Bool)
    (l : Option Location) :
    Records g.faults (.function p.name p.params.length) (faultsIn m.arity? p.params body)
      (writeBody p l declared (lower body) { g with module := m }) := by
  have name : F.name = p.name := Module.name_of_find? (Module.function?_eq_some_iff.mp found)
  have there : p.name ∈ m.names := by
    rw [← Module.isSome_find?_iff, Module.function?_eq_some_iff.mp found]
    rfl
  unfold writeBody
  simp only [found, start_eq idle name]
  rcases lower_finds (m := m) (scopes_params p.params) body term rfl
      { g with
        module := m
        site := some (opening F p.params.zipIdx.reverse)
        unfinished := [p.name] } rfl rfl with
    ⟨v, t, run, -, clean, double⟩ | ⟨t, fault, rest, run, -, first⟩
  · rw [run, clean]
    simp only [double, if_true]
    rw [finish_eq idle]
    exact .accepted ⟨idle.site, idle.unfinished⟩ rfl
  · obtain ⟨k, back⟩ := takeBack_refuses (t := t) idle there declared (g.faults.push fault)
    rw [run, first]
    simp only [back]
    exact .refused ⟨idle.site, idle.unfinished⟩ rfl

/-- The body of a function may call the function itself, whatever had its name before. -/
theorem arity?_set_heading {m : Module} (clean : headingFaults m p p.location = []) :
    (m.set (heading m p)).arity? = arityWithin m.status p := by
  funext n
  rw [Module.arity?_set (name_heading m p ▸ ne_cell_of_headingFaults clean), name_heading,
    arity_heading_of_headingFaults clean, arityWithin]
  split
  · rfl
  · exact m.arity?_eq n

/-- A definition whose name is free for it is refused for what is wrong with its prototype, or
else with its body. -/
theorem declare_writeBody_records {body : Expr} (idle : g.Idle) (named : p.name ≠ "")
    (term : body.IsBody) (declared : Bool) (l : Option Location) :
    Records g.faults (.function p.name p.params.length)
      (headingFaults g.module p p.location ++
        faultsIn (arityWithin g.module.status p) p.params body)
      (match declare p g with
        | .error stop k => .error stop k
        | .ok _ k => writeBody p l declared (lower body) k) := by
  rcases declare_cases idle named with ⟨clean, run⟩ | ⟨x, fault, run⟩
  · have clear := ne_cell_of_headingFaults clean
    rw [← name_heading g.module p] at clear
    have found := Module.function?_set_self clear
    rw [name_heading] at found
    rw [run, clean, List.nil_append, ← arity?_set_heading clean]
    exact writeBody_records idle found term declared l
  · rw [run, fault]
    exact .refused ⟨idle.site, idle.unfinished⟩ rfl

theorem arityWithin_remove (m : Module) (p : Prototype) :
    arityWithin (m.remove p.name).status p = arityWithin m.status p := by
  funext n
  unfold arityWithin
  split
  · rfl
  · rename_i ne
    rw [Module.status, Module.function?_remove_of_ne ne]
    rfl

/-- A definition is refused for the first thing that is wrong with it. -/
theorem define_records {body : Expr} (idle : g.Idle) (named : p.name ≠ "") (term : body.IsBody)
    (l : Option Location) :
    Records g.faults (.function p.name p.params.length)
      (faultsAt g.module (.function p body l)) (define p l (lower body) g) := by
  have defined := isDefined_eq idle p.name
  rw [faultsAt]
  by_cases replaced : replaces g.module p = true
  · obtain ⟨anonymous, written⟩ := (Bool.and_eq_true _ _).mp replaced
    have discarded : g.discard p.name = { g with module := g.module.remove p.name } := by
      simp [Generator.discard, idle.site, idle.unfinished]
    have free : headingFaults (g.module.remove p.name) p p.location = [] := by
      rw [headingFaults, Module.find?_remove_self]
    have rest := declare_writeBody_records (g := { g with module := g.module.remove p.name })
      ⟨idle.site, idle.unfinished⟩ named term false l
    rw [free, arityWithin_remove] at rest
    rw [if_pos replaced, define_of_isDefined (defined.trans written) (by simp [anonymous]),
      if_pos rfl, discarded]
    exact rest
  · rw [if_neg replaced]
    by_cases written : (g.module.function? p.name).any (!·.isDeclaration) = true
    · have ordinary : p.isAnonymous = false := by simpa [replaces, written] using replaced
      obtain ⟨f, found, body⟩ := (Option.any_eq_true _ _).mp written
      have filled : f.blocks ≠ [] := by simpa [Function.isDeclaration] using body
      rw [headingFaults, Module.function?_eq_some_iff.mp found]
      simp only [f.status_of_ne_nil filled, headFaults]
      unfold define
      rw [defined, written, ordinary]
      exact .refused ⟨idle.site, idle.unfinished⟩ rfl
    · have undefined := Bool.eq_false_iff.mpr written
      have same : headingFaults g.module p l = headingFaults g.module p p.location := by
        unfold headingFaults
        cases found : g.module.find? p.name with
        | none => rfl
        | some global =>
          cases global with
          | cell c => rfl
          | function f =>
            rw [Module.function?_eq_some_iff.mpr found, Option.any_some] at undefined
            have declared : f.blocks = [] := by simpa [Function.isDeclaration] using undefined
            simp only [f.status_of_nil declared, headFaults]
      rw [same, define_of_isDefined (defined.trans undefined) rfl, if_neg Bool.false_ne_true]
      exact declare_writeBody_records idle named term _ l

/-- **What a statement is refused for**: the first of its faults. It is accepted if there are
none. -/
theorem lower_records {e : Expr} (idle : g.Idle) (he : e.IsStatement) :
    ∃ v, Records g.faults v (faultsAt g.module e) (lower e g) := by
  cases he with
  | @declaration p signature =>
    refine ⟨.function p.name p.params.length, ?_⟩
    rw [lower_prototype, faultsAt]
    rcases declare_cases idle signature.name.nonempty with ⟨clean, run⟩ | ⟨x, fault, run⟩
    · rw [clean, run]
      exact .accepted ⟨idle.site, idle.unfinished⟩ rfl
    · rw [fault, run]
      exact .refused ⟨idle.site, idle.unfinished⟩ rfl
  | definition signature term =>
    rw [lower_function]
    exact ⟨_, define_records idle signature.name.nonempty term.isBody _⟩
  | bare term =>
    rw [Expr.anonymous, lower_function]
    exact ⟨_, define_records idle (show anonymousName ≠ "" by decide) term.isBody _⟩

/-- In a register, the status of its name tells what stands in the way of a function. -/
theorem headingFaults_eq {m : Module} (registry : m.Registry) (l : Option Location) :
    headingFaults m p l = headFaults p l (m.status p.name) := by
  unfold headingFaults
  cases found : m.find? p.name with
  | none =>
    rw [Module.status, Module.function?_of_find?_none found]
    rfl
  | some global =>
    cases global with
    | cell c => exact absurd found registry.find?_ne_cell
    | function f => rw [status_of_find? found]

/-- In a module that statements lead to, the status of names tells what is wrong with one. -/
theorem Settled.faultsAt_eq {m : Module} {e : Expr} (h : Settled P m) (he : e.IsStatement) :
    faultsAt m e = faultsOf m.status e := by
  have define {p : Prototype} {body : Expr} {l : Option Location}
      (bare : p.isAnonymous = true → p.name = anonymousName) :
      faultsAt m (.function p body l) = faultsOf m.status (.function p body l) := by
    rw [faultsAt, faultsOf, headingFaults_eq h.registry]
    congr 1
    by_cases anonymous : p.isAnonymous = true
    · rw [if_pos anonymous]
      cases found : m.function? p.name with
      | none =>
        rw [Module.status, found]
        exact ite_self []
      | some f =>
        obtain ⟨mem, name⟩ := h.registry.function?_eq_some_iff.mp found
        have filled := h.bare f mem (name.trans (bare anonymous))
        rw [replaces, anonymous, found, if_pos]
        simpa [Function.isDeclaration] using filled
    · rw [if_neg anonymous, replaces, Bool.eq_false_iff.mpr anonymous, Bool.false_and,
        if_neg Bool.false_ne_true]
  cases he with
  | declaration _ => exact headingFaults_eq h.registry _
  | definition _ _ => exact define of_decide_eq_true
  | bare _ => exact define of_decide_eq_true

/-- A statement is refused for the first of its faults, which in a session follow from the
status of names alone. -/
theorem Settled.finds {e : Expr} (h : Settled P g.module) (idle : g.Idle) (he : e.IsStatement) :
    (g.generate e).1.isOk = (faultsOf g.module.status e).isEmpty ∧
      (g.generate e).2.faults.toList =
        g.faults.toList ++ (faultsOf g.module.status e).head?.toList := by
  obtain ⟨v, records⟩ := lower_records idle he
  rw [h.faultsAt_eq he] at records
  unfold Generator.generate
  generalize lower e g = result at records ⊢
  generalize faultsOf g.module.status e = l at records ⊢
  cases records with
  | accepted _ same => exact ⟨rfl, (congrArg Array.toList same).trans (List.append_nil _).symm⟩
  | refused _ recorded => exact ⟨rfl, (congrArg Array.toList recorded).trans Array.toList_push⟩

end Statements

end Lowering

end Reckoner

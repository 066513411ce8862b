import Reckoner.Proofs.IR.Registry
import Reckoner.Proofs.Lowering.Expression

/-! What a statement does to a module.

A module as statements leave it is `Orderly`. A prototype is declared in it if no
function of its name stands in the way (`declare_spec`). A definition then gives the
function that it declares a body, which is the code of its tree (`Implements`); or it
records one fault, and the module is as before but for the function, which is a
declaration again or gone (`define_spec`). -/
namespace Reckoner

namespace IR.Module
variable {m : Module} {f : Function}

theorem arity?_set (clear : ∀ c, m.find? f.name ≠ some (.cell c)) (name : String) :
    (m.set f).arity? name = if name = f.name then some f.arity else m.arity? name := by
  by_cases here : name = f.name
  · rw [if_pos here, here, arity?, function?_set_self clear, Option.map_some]
  · rw [if_neg here, arity?, function?_set_of_ne here]
    rfl

end IR.Module

namespace Lowering
open IR

/-! ### The code of a function -/

section Code
variable {a b : String → Option Nat} {names : List (String × Nat)}

mutual

/-- Code remains code where no less is declared. -/
theorem Code.mono (h : ∀ n k, n ≠ anonymousName → a n = some k → b n = some k) {p q : Point}
    {e : Expr} {v : Operand} {bs : List Piece} {ns : List String} :
    Code a names p e v bs q ns → Code b names p e v bs q ns
  | .number => .number
  | .var found => .var found
  | .arithmetic op lhs rhs => .arithmetic op (lhs.mono h) (rhs.mono h)
  | .less op lhs rhs => .less op (lhs.mono h) (rhs.mono h)
  | .call known arity args => .call known (h _ _ known arity) (args.mono h)
  | .conditional c fork t e => .conditional (c.mono h) fork (t.mono h) (e.mono h)

theorem CodeAll.mono (h : ∀ n k, n ≠ anonymousName → a n = some k → b n = some k) {p q : Point}
    {es : List Expr} {vs : List Operand} {bs : List Piece} {ns : List String} :
    CodeAll a names p es vs bs q ns → CodeAll b names p es vs bs q ns
  | .nil => .nil
  | .cons first others => .cons (first.mono h) (others.mono h)

end

end Code

/-! ### Functions under a heading -/

theorem isDotted_unnamed (n : Nat) (s : Scope) : ∀ x ∈ (Function.unnamed n s).1, IsDotted x := by
  induction n generalizing s with
  | zero => exact List.forall_mem_nil _
  | succ n ih => exact List.forall_mem_cons.mpr ⟨isDotted_fresh s (by decide), ih _⟩

theorem isDotted_renamed (olds : List String) {news : List String} (s : Scope)
    (hold : ∀ x ∈ olds, IsDotted x) (hnew : ∀ x ∈ news, IsDotted x) :
    ∀ x ∈ (Function.renamed olds news s).1, IsDotted x := by
  induction olds generalizing news s with
  | nil => cases news <;> (intro x h; cases h)
  | cons old olds ih =>
    cases news with
    | nil => exact hold
    | cons new news =>
      obtain ⟨hold, holds⟩ := List.forall_mem_cons.mp hold
      obtain ⟨hnew, hnews⟩ := List.forall_mem_cons.mp hnew
      rw [Function.renamed]
      by_cases same : old = new
      · simp only [if_pos same]
        exact List.forall_mem_cons.mpr ⟨hold, ih s holds hnews⟩
      · simp only [if_neg same]
        exact List.forall_mem_cons.mpr ⟨isDotted_fresh s hnew, ih _ holds hnews⟩

/-- All names in use are made of letters, digits and points. -/
def IsDottedScope (s : Scope) : Prop :=
  ∀ x ∈ s.used, IsDotted x

theorem isDottedScope_empty : IsDottedScope {} :=
  List.forall_mem_singleton.mpr (by decide)

theorem IsDottedScope.fresh {s : Scope} (h : IsDottedScope s) {base : String} (dotted : IsDotted base) :
    IsDottedScope (s.fresh base).2 := by
  intro x used
  rcases (s.mem_used_fresh base x).mp used with rfl | old
  · exact isDotted_fresh s dotted
  · exact h x old

theorem IsDottedScope.unnamed {s : Scope} (h : IsDottedScope s) (n : Nat) :
    IsDottedScope (Function.unnamed n s).2 := by
  induction n generalizing s with
  | zero => exact h
  | succ n ih => exact ih (h.fresh (by decide))

theorem IsDottedScope.renamed {s : Scope} (h : IsDottedScope s) (olds : List String)
    {news : List String} (hnew : ∀ x ∈ news, IsDotted x) :
    IsDottedScope (Function.renamed olds news s).2 := by
  induction olds generalizing news s with
  | nil => cases news <;> exact h
  | cons old olds ih =>
    cases news with
    | nil => exact h
    | cons new news =>
      obtain ⟨hnew, hnews⟩ := List.forall_mem_cons.mp hnew
      rw [Function.renamed]
      by_cases same : old = new
      · simp only [if_pos same]
        exact ih h hnews
      · simp only [if_neg same]
        exact ih (h.fresh hnew) hnews

/-- The names that statements give to functions are never reserved. -/
theorem isReserved_eq_false {name : String} (h : IsIdentifier name ∨ name = anonymousName) :
    isReserved name = false := by
  rcases h with identifier | rfl
  · refine Bool.eq_false_iff.mpr fun reserved => ?_
    obtain ⟨rest, same⟩ := List.isPrefixOf_iff_prefix.mp reserved
    have point : '.' ∈ name.toList := same ▸ List.mem_append_left _ (by decide)
    exact absurd (identifier.alphanum '.' point) (by decide)
  · decide

/-- The names of a function are ones that statements give. -/
structure Spelled (f : Function) : Prop where
  name : IsIdentifier f.name ∨ f.name = anonymousName
  params : ∀ x ∈ f.params, IsDotted x
  shown : ∀ x ∈ f.shownParams, IsDotted x
  used : IsDottedScope f.scope

theorem Spelled.rename {f : Function} (h : Spelled f) {names : List String}
    (hn : ∀ x ∈ names, IsDotted x) : Spelled (f.rename names) := by
  have params := isDotted_renamed f.params f.scope h.params hn
  refine ⟨h.name, params, ?_, h.used.renamed _ hn⟩
  cases hp : f.printed with
  | none => simpa [Function.shownParams, Function.rename, hp] using params
  | some ps => simpa [Function.shownParams, Function.rename, hp] using h.shown

theorem Spelled.ordinary {f : Function} (h : Spelled f) : isReserved f.name = false :=
  isReserved_eq_false h.name

/-- A function goes on from another one: with its name and its parameters, with no
local name forgotten, and with none but made up ones added. -/
structure Continues (f g : Function) : Prop where
  name : g.name = f.name
  params : g.params = f.params
  printed : g.printed = f.printed
  used : f.scope.used ⊆ g.scope.used
  made : ∀ x ∈ g.scope.used, x ∈ f.scope.used ∨ IsMade x

theorem Continues.shownParams {f g : Function} (h : Continues f g) :
    g.shownParams = f.shownParams := by
  rw [Function.shownParams, Function.shownParams, h.printed, h.params]

theorem Continues.arity {f g : Function} (h : Continues f g) : g.arity = f.arity :=
  congrArg List.length h.params

theorem Spelled.of_continues {f g : Function} (h : Spelled f) (on : Continues f g) : Spelled g :=
  ⟨on.name ▸ h.name, on.params ▸ h.params, on.shownParams ▸ h.shown,
    fun x used => (on.made x used).elim (h.used x) IsMade.dotted⟩

/-- What a prototype needs for a function under it: the names that a text can spell,
or the reserved one and no parameters. -/
structure IsHeading (p : Prototype) : Prop where
  name : IsIdentifier p.name ∨ p.name = anonymousName
  params : ∀ x ∈ p.params, IsDotted x

theorem isDotted_of_isIdentifier {name : String} (h : IsIdentifier name) : IsDotted name :=
  fun c hc => .inl (h.alphanum c hc)

theorem isHeading_of_isSignature {p : Prototype} (h : Expr.IsSignature p) : IsHeading p :=
  ⟨.inl h.name, fun x hx => isDotted_of_isIdentifier (h.params x hx)⟩

theorem IsHeading.nonempty {p : Prototype} (h : IsHeading p) : p.name ≠ "" := by
  rcases h.name with spelled | anonymous
  · exact spelled.nonempty
  · rw [anonymous]
    decide

/-- The function that a prototype declares in a module. -/
def heading (m : Module) (p : Prototype) : Function :=
  ((m.function? p.name).getD (.declare p.name p.params.length)).rename p.params

/-- A prototype can be declared: the function of its name, if there is one, has no body
and takes as many arguments. -/
def Admits (m : Module) (p : Prototype) : Prop :=
  ∀ f, m.function? p.name = some f → f.blocks = [] ∧ f.arity = p.params.length

theorem heading_spec {m : Module} {p : Prototype} (h : IsHeading p) (admits : Admits m p)
    (registry : m.Registry) (named : ∀ f ∈ m.functions, f.Named)
    (spelled : ∀ f ∈ m.functions, Spelled f) :
    (heading m p).name = p.name ∧ (heading m p).blocks = [] ∧
      (heading m p).arity = p.params.length ∧ (heading m p).Named ∧ Spelled (heading m p) := by
  unfold heading
  cases found : m.function? p.name with
  | some f =>
    obtain ⟨mem, name⟩ := registry.function?_eq_some_iff.mp found
    obtain ⟨declared, arity⟩ := admits f found
    rw [Option.getD_some]
    exact ⟨name, declared, (f.arity_rename _).trans arity, (named f mem).rename declared _,
      (spelled f mem).rename h.params⟩
  | none =>
    rw [Option.getD_none]
    have spelled : Spelled (.declare p.name p.params.length) :=
      ⟨h.name, isDotted_unnamed _ _, isDotted_unnamed _ _,
        (isDottedScope_empty.unnamed _).fresh (by decide)⟩
    exact ⟨rfl, rfl, (Function.arity_rename _ _).trans (Function.arity_declare _ _),
      (Function.named_declare _ _).rename rfl _, spelled.rename h.params⟩

/-- The blocks of a function are the code of a definition, the first one where the code
starts. -/
structure Implements (arity? : String → Option Nat) (f : Function) (d : Definition) : Prop where
  name : f.name = d.name
  arity : f.arity = d.params.length
  code : ∃ entry v bs q ns, Code arity? d.params.zipIdx.reverse ⟨entry, [], []⟩ d.body v bs q ns ∧
    f.blocks.Perm ((⟨q, .ret v⟩ :: bs).map Piece.block) ∧ f.labels.head? = some entry

theorem Implements.mono {a b : String → Option Nat} {f : Function} {d : Definition}
    (h : Implements a f d) (more : ∀ n k, n ≠ anonymousName → a n = some k → b n = some k) :
    Implements b f d := by
  obtain ⟨entry, v, bs, q, ns, code, blocks, first⟩ := h.code
  exact ⟨h.name, h.arity, entry, v, bs, q, ns, code.mono more, blocks, first⟩

theorem Implements.blocks_ne_nil {a : String → Option Nat} {f : Function} {d : Definition}
    (h : Implements a f d) : f.blocks ≠ [] := by
  obtain ⟨entry, v, bs, q, ns, -, -, first⟩ := h.code
  intro none
  rw [Function.labels, none] at first
  cases first

/-! ### Declaring and writing -/

/-- No function is being written. -/
structure Generator.Idle (g : Generator) : Prop where
  site : g.site = none
  unfinished : g.unfinished = []

section Steps
variable {g : Generator} {p : Prototype}

theorem isDefined_eq (h : g.Idle) (name : String) :
    g.isDefined name = (g.module.function? name).any fun f => !f.isDeclaration := by
  simp [Generator.isDefined, h.unfinished]

theorem name_heading (m : Module) (p : Prototype) : (heading m p).name = p.name := by
  unfold heading
  cases found : m.function? p.name with
  | none => rfl
  | some f => exact Module.name_of_find? (Module.function?_eq_some_iff.mp found)

/-- A prototype of a new name is declared. -/
theorem declare_of_none (named : p.name ≠ "") (found : g.module.find? p.name = none) :
    declare p g =
      .ok (.function p.name p.params.length) { g with module := g.module.set (heading g.module p) } := by
  have free : g.module.isFree p.name = true := by
    have new : p.name ∉ g.module.names := by
      rw [← Module.isSome_find?_iff, found]
      exact Bool.false_ne_true
    simpa [Module.isFree, new] using named
  have none := Module.function?_of_find?_none found
  have here : heading g.module p = (Function.declare p.name p.params.length).rename p.params := by
    rw [heading, none, Option.getD_none]
  have set : g.module.set (heading g.module p) = g.module.add (.function (heading g.module p)) := by
    rw [Module.set, name_heading, none, Option.isSome_none, if_neg (by decide)]
  unfold declare
  rw [set, here, found]
  simp only [free, if_true, Function.arity_rename, Function.arity_declare]

section
variable {f : Function} (idle : g.Idle) (found : g.module.find? p.name = some (.function f))
include idle found

theorem isDefined_of_find? : g.isDefined p.name = !f.isDeclaration := by
  rw [isDefined_eq idle, Module.function?_eq_some_iff.mpr found, Option.any_some]

/-- A prototype gives its names to the parameters of a function without a body. -/
theorem declare_of_some (declared : f.blocks = []) (fits : f.arity = p.params.length) :
    declare p g =
      .ok (.function p.name p.params.length) { g with module := g.module.set (heading g.module p) } := by
  have undefined : g.isDefined p.name = false := by
    rw [isDefined_of_find? idle found, Function.isDeclaration, declared]
    rfl
  have some := Module.function?_eq_some_iff.mpr found
  have here : heading g.module p = f.rename p.params := by
    rw [heading, some, Option.getD_some]
  have set : g.module.set (heading g.module p) = g.module.put (heading g.module p) := by
    rw [Module.set, name_heading, some, Option.isSome_some, if_pos rfl]
  unfold declare
  rw [set, here, found]
  simp [undefined, fits]

/-- A prototype is refused for a function with a body, or with another number of
parameters. -/
theorem declare_refused (blocked : ¬(f.blocks = [] ∧ f.arity = p.params.length)) :
    declare p g = .error .refused { g with
      faults := g.faults.push
        ⟨if f.isDeclaration then .argumentCount p.name f.arity p.params.length
          else .redefined p.name, p.location⟩ } := by
  have defined := isDefined_of_find? idle found
  unfold declare
  rw [found]
  by_cases declared : f.blocks = []
  · have bare : f.isDeclaration = true := by rw [Function.isDeclaration, declared, List.isEmpty_nil]
    have other : f.arity ≠ p.params.length := fun fits => blocked ⟨declared, fits⟩
    simp [defined, bare, other, refuse]
  · have written : f.isDeclaration = false := by simpa [Function.isDeclaration] using declared
    simp [defined, written, refuse]

end

/-- A prototype is refused for a cell. -/
theorem declare_of_cell {c : String} (found : g.module.find? p.name = some (.cell c)) :
    declare p g =
      .error .refused { g with faults := g.faults.push ⟨.redefined p.name, p.location⟩ } := by
  unfold declare
  rw [found]
  rfl

/-- A prototype is declared if it can be; otherwise one fault is recorded. -/
theorem declare_spec (idle : g.Idle) (registry : g.module.Registry) (named : p.name ≠ "") :
    (Admits g.module p ∧ declare p g =
      .ok (.function p.name p.params.length) { g with module := g.module.set (heading g.module p) }) ∨
    (¬Admits g.module p ∧
      ∃ fault, declare p g = .error .refused { g with faults := g.faults.push fault }) := by
  cases found : g.module.find? p.name with
  | none =>
    refine .inl ⟨fun f hf => ?_, declare_of_none named found⟩
    cases (Module.function?_of_find?_none found).symm.trans hf
  | some global =>
    cases global with
    | function f =>
      have some := Module.function?_eq_some_iff.mpr found
      by_cases admits : f.blocks = [] ∧ f.arity = p.params.length
      · refine .inl ⟨fun k hk => ?_, declare_of_some idle found admits.1 admits.2⟩
        cases some.symm.trans hk
        exact admits
      · exact .inr ⟨fun h => admits (h f some), _, declare_refused idle found admits⟩
    | cell c => exact absurd found registry.find?_ne_cell

/-- Where the body of a function is begun. -/
def opening (f : Function) (names : List (String × Nat)) : Site :=
  let s : Site := { function := f, block := "", names }
  { s.withBlock "entry" with block := s.fresh "entry" }

theorem opening_at {f : Function} (named : f.Named) (declared : f.blocks = [])
    (names : List (String × Nat)) :
    ∃ entry, (opening f names).At { label := entry } [] ∧
      (opening f names).function.labels = [entry] ∧ Continues f (opening f names).function := by
  let s : Site := { function := f, block := "", names }
  have empty : s.Holds [] := ⟨by rw [declared], named⟩
  obtain ⟨holds, grows⟩ := empty.withBlock (show "entry" ∈ ownNames by decide)
  refine ⟨s.fresh "entry", holds.enter [], ?_, grows.name, grows.params, grows.printed, grows.used,
    grows.made⟩
  show (f.blocks ++ [_]).map Block.label = _
  rw [declared]
  rfl

/-- The body of a function is begun while the module holds it as a declaration. -/
theorem start_eq {F : Function} (idle : g.Idle) (name : F.name = p.name) (m : Module) :
    Generator.start (Generator.suspend { g with module := m }) p F =
      { g with
        module := m
        site := some (opening F p.params.zipIdx.reverse)
        unfinished := [p.name] } := by
  have same : (F.addBlock "entry").2.name = p.name := name
  simp only [Generator.suspend, idle.site, Generator.start, idle.unfinished, same]
  rfl

/-- A function that has been written is put into its place. -/
theorem finish_eq (idle : g.Idle) (m : Module) (t : Site) (v : Operand) :
    Generator.finish { g with module := m, site := some t, unfinished := [p.name] } p v =
      .ok (.function p.name p.params.length)
        { g with module := m.put (t.ended (.ret v)).function } := by
  show EStateM.Result.ok _ _ = _
  congr 1
  simp only [Generator.close, Generator.suspend, List.erase_cons_head]
  rw [idle.site, idle.unfinished]
  rfl

/-- A function that has been written in part is a declaration again, or gone. -/
theorem takeBack_eq {F : Function} {t : Site} {declared : Bool} (idle : g.Idle)
    (registry : g.module.Registry) (name : F.name = p.name) (same : t.function.name = F.name)
    (before : declared = (g.module.function? p.name).isSome) (faults : Array Fault) :
    Generator.takeBack
        { module := g.module.set F, site := some t, unfinished := [p.name], faults } p.name declared =
      .error .refused { g with
        module := if declared then g.module.set t.function.withoutBody else g.module
        faults } := by
  have put : (g.module.set F).put t.function = g.module.set t.function := registry.put_set same
  have name' : t.function.name = p.name := same.trans name
  have there : ((g.module.set t.function).find? p.name).isSome := by
    rw [(registry.set _).1.find?_eq, ← name', registry.function?_set_self]
    rfl
  simp only [Generator.takeBack, Generator.close, Generator.suspend, put, there, List.contains_cons,
    beq_self_eq_true, Bool.true_or, Bool.not_true, Bool.false_eq_true, if_false, if_true,
    List.erase_cons_head]
  cases declared with
  | true =>
    rw [if_pos rfl, if_pos rfl, ← name', registry.modify_set (by rfl), idle.site, idle.unfinished]
  | false =>
    have free : g.module.function? t.function.name = none := by
      rw [name']
      simpa using before.symm
    rw [if_neg (by decide), if_neg (by decide), ← name', registry.remove_set free, idle.site,
      idle.unfinished]

/-- The body of a declared function is written, or it is taken back. Only the function
is another one then, and only if it was there before. -/
theorem writeBody_spec {F : Function} {body : Expr} {declared : Bool} (idle : g.Idle)
    (registry : g.module.Registry) (name : F.name = p.name) (empty : F.blocks = [])
    (fits : F.arity = p.params.length) (named : F.Named) (term : body.IsTerm)
    (before : declared = (g.module.function? p.name).isSome) (l : Option Location) :
    (∃ F', Continues F F' ∧ F'.Named ∧
      Implements (g.module.set F).arity? F' ⟨p.name, p.params, body⟩ ∧
      writeBody p l declared (lower body) { g with module := g.module.set F } =
        .ok (.function p.name p.params.length) { g with module := g.module.set F' }) ∨
    (∃ F' fault, Continues F F' ∧ F'.blocks = [] ∧
      writeBody p l declared (lower body) { g with module := g.module.set F } =
        .error .refused { g with
          module := if declared then g.module.set F' else g.module
          faults := g.faults.push fault }) := by
  obtain ⟨entry, hat, labels, opened⟩ := opening_at named empty p.params.zipIdx.reverse
  have found : (g.module.set F).function? p.name = some F := name ▸ registry.function?_set_self F
  unfold writeBody
  simp only [found, start_eq idle name]
  rcases lower_writes (g.module.set F) _ body term rfl hat
      { g with
        module := g.module.set F
        site := some (opening F p.params.zipIdx.reverse)
        unfinished := [p.name] } rfl rfl with
    ⟨v, t, run, grows, bs, q, ns, code, ht⟩ | ⟨t, fault, run, grows⟩
  · obtain ⟨⟨blocks, named'⟩, more⟩ := ht.ended (.ret v)
    have whole := grows.trans more
    have on : Continues F (t.ended (.ret v)).function :=
      ⟨whole.name.trans opened.name, whole.params.trans opened.params,
        whole.printed.trans opened.printed, List.Subset.trans opened.used whole.used,
        fun x used => (whole.made x used).elim (opened.made x) .inr⟩
    refine .inl ⟨(t.ended (.ret v)).function, on, named',
      ⟨on.name.trans name, on.arity.trans fits, entry, v, bs, q, ns, code, ?_, ?_⟩, ?_⟩
    · rw [List.append_nil] at blocks
      exact blocks
    · obtain ⟨rest, same⟩ := whole.labels
      rw [← same, labels]
      rfl
    · rw [run]
      simp only [code.type_eq, if_true]
      rw [finish_eq idle, registry.put_set on.name]
  · have on : Continues F t.function.withoutBody :=
      ⟨grows.name.trans opened.name, grows.params.trans opened.params,
        grows.printed.trans opened.printed, List.Subset.trans opened.used grows.used,
        fun x used => (grows.made x used).elim (opened.made x) .inr⟩
    refine .inr ⟨t.function.withoutBody, fault, on, rfl, ?_⟩
    rw [run]
    exact takeBack_eq idle registry name on.name before _

end Steps

/-- A module as statements leave it: functions only, with distinct local names that
statements give, and the reserved name only for a function with a body. -/
structure Orderly (m : Module) : Prop where
  registry : m.Registry
  named : ∀ f ∈ m.functions, f.Named
  spelled : ∀ f ∈ m.functions, Spelled f
  bare : ∀ f ∈ m.functions, f.name = anonymousName → f.blocks ≠ []

/-- The module in which a prototype is declared. The function of the bare expression
before is gone from it. -/
def ground (m : Module) (p : Prototype) : Module :=
  if p.isAnonymous then m.remove anonymousName else m

theorem ground_of_eq {p : Prototype} (anonymous : p.name = anonymousName) (m : Module) :
    ground m p = m.remove anonymousName := by
  rw [ground, Prototype.isAnonymous, decide_eq_true anonymous, if_pos rfl]

theorem ground_of_ne {p : Prototype} (ordinary : p.name ≠ anonymousName) (m : Module) :
    ground m p = m := by
  rw [ground, Prototype.isAnonymous, decide_eq_false ordinary, if_neg (by decide)]

/-- A bare expression finds no function of its name. -/
theorem function?_ground {m : Module} {p : Prototype}
    (anonymous : p.name = anonymousName) : (ground m p).function? p.name = none := by
  rw [ground_of_eq anonymous, anonymous]
  exact Module.function?_remove_self m anonymousName

/-- What cannot be declared has a name of its own. -/
theorem ordinary_of_not_admits {m : Module} {p : Prototype}
    (blocked : ¬Admits (ground m p) p) : p.name ≠ anonymousName := by
  intro anonymous
  refine blocked fun f found => ?_
  rw [function?_ground anonymous] at found
  cases found

theorem Orderly.filter {m k : Module} (h : Orderly m) (registry : k.Registry)
    (fewer : k.functions ⊆ m.functions) : Orderly k :=
  ⟨registry, fun f hf => h.named f (fewer hf), fun f hf => h.spelled f (fewer hf),
    fun f hf => h.bare f (fewer hf)⟩

theorem Orderly.remove {m : Module} (h : Orderly m) (name : String) : Orderly (m.remove name) := by
  obtain ⟨registry, functions⟩ := h.registry.remove name
  refine h.filter registry fun f hf => ?_
  rw [functions] at hf
  exact (List.mem_filter.mp hf).1

theorem Orderly.ground {m : Module} (h : Orderly m) (p : Prototype) : Orderly (ground m p) := by
  unfold Lowering.ground
  split
  · exact h.remove _
  · exact h

section Define
variable {g : Generator} {p : Prototype}

/-- A definition that is let through starts with its prototype. -/
theorem define_of_isDefined {d : Bool} (defined : g.isDefined p.name = d)
    (through : (d && !p.isAnonymous) = false) (l : Option Location) (body : Lower Operand) :
    define p l body g =
      match declare p (if d then g.discard p.name else g) with
      | .error stop g => .error stop g
      | .ok _ g' => writeBody p l (!d && (g.module.function? p.name).isSome) body g' := by
  subst defined
  exact if_neg (ne_true_of_eq_false through)

/-- Only the ground of a definition matters, unless it is refused at once. -/
theorem define_eq (idle : g.Idle) (orderly : Orderly g.module) (l : Option Location)
    (body : Lower Operand) (admits : Admits (ground g.module p) p) :
    define p l body g =
      match declare p { g with module := ground g.module p } with
      | .error stop g => .error stop g
      | .ok _ g' => writeBody p l ((ground g.module p).function? p.name).isSome body g' := by
  have defined := isDefined_eq idle p.name
  by_cases anonymous : p.name = anonymousName
  · have bare : p.isAnonymous = true := decide_eq_true anonymous
    rw [function?_ground anonymous, ground_of_eq anonymous]
    rw [anonymous] at defined
    cases found : g.module.function? anonymousName with
    | none =>
      rw [found] at defined
      rw [define_of_isDefined (anonymous ▸ defined) rfl, orderly.registry.remove_of_none found,
        anonymous, found]
      rfl
    | some f =>
      obtain ⟨mem, name⟩ := orderly.registry.function?_eq_some_iff.mp found
      have written : f.isDeclaration = false := by
        simpa [Function.isDeclaration] using orderly.bare f mem name
      have discarded : g.discard anonymousName =
          { g with module := g.module.remove anonymousName } := by
        simp [Generator.discard, idle.site, idle.unfinished]
      rw [found, Option.any_some, written] at defined
      rw [define_of_isDefined (anonymous ▸ defined) (by rw [bare]; rfl), anonymous,
        if_pos (show (!false) = true from rfl), discarded]
      rfl
  · rw [ground_of_ne anonymous] at admits ⊢
    have undefined : g.isDefined p.name = false := by
      rw [defined]
      cases found : g.module.function? p.name with
      | none => rfl
      | some f => simp [Function.isDeclaration, (admits f found).1]
    rw [define_of_isDefined undefined rfl]
    rfl

/-- A definition whose prototype cannot be declared is refused at once. -/
theorem define_refused (idle : g.Idle) (orderly : Orderly g.module) (heading : IsHeading p)
    (l : Option Location) (body : Lower Operand) (refused : ¬Admits (ground g.module p) p) :
    ∃ fault, define p l body g =
      .error .refused { g with module := ground g.module p, faults := g.faults.push fault } := by
  have ordinary := ordinary_of_not_admits refused
  rw [ground_of_ne ordinary] at refused ⊢
  unfold define
  simp only [Prototype.isAnonymous, decide_eq_false ordinary, Bool.not_false, Bool.and_true]
  by_cases defined : g.isDefined p.name = true
  · rw [if_pos defined]
    exact ⟨⟨.redefined p.name, l⟩, rfl⟩
  · rw [if_neg defined, if_neg defined]
    rcases declare_spec idle orderly.registry heading.nonempty with ⟨admits, -⟩ | ⟨-, fault, run⟩
    · exact absurd admits refused
    · exact ⟨fault, by rw [run]⟩

/-- What a definition does: it writes the body of the function that it declares, or it
is refused, with its function taken back or not even declared. -/
theorem define_spec {body : Expr} (idle : g.Idle) (orderly : Orderly g.module)
    (head : IsHeading p) (term : body.IsTerm) (l : Option Location) :
    (Admits (ground g.module p) p ∧ ∃ F, Continues (heading (ground g.module p) p) F ∧ F.Named ∧
      Implements ((ground g.module p).set F).arity? F ⟨p.name, p.params, body⟩ ∧
      define p l (lower body) g =
        .ok (.function p.name p.params.length) { g with module := (ground g.module p).set F }) ∨
    (Admits (ground g.module p) p ∧
      ∃ F fault, Continues (heading (ground g.module p) p) F ∧ F.blocks = [] ∧
      define p l (lower body) g = .error .refused { g with
        module := if ((ground g.module p).function? p.name).isSome then (ground g.module p).set F
          else ground g.module p
        faults := g.faults.push fault }) ∨
    (¬Admits (ground g.module p) p ∧ ∃ fault, define p l (lower body) g =
      .error .refused { g with module := ground g.module p, faults := g.faults.push fault }) := by
  by_cases admits : Admits (ground g.module p) p
  · have orderly' := orderly.ground p
    have run := (declare_spec (g := { g with module := ground g.module p }) ⟨idle.site, idle.unfinished⟩
      orderly'.registry head.nonempty).resolve_right fun h => h.1 admits
    obtain ⟨name, empty, arity, named, -⟩ :=
      heading_spec head admits orderly'.registry orderly'.named orderly'.spelled
    rw [define_eq idle orderly l _ admits, run.2]
    rcases writeBody_spec (g := { g with module := ground g.module p }) ⟨idle.site, idle.unfinished⟩
        orderly'.registry name empty arity named term rfl l with
      ⟨F, on, named', implements, written⟩ | ⟨F, fault, on, empty', taken⟩
    · refine .inl ⟨admits, F, on, named', implements.mono fun n k _ h => ?_, written⟩
      rw [Module.arity?_set fun _ => orderly'.registry.find?_ne_cell] at h ⊢
      rwa [on.name, on.arity]
    · exact .inr (.inl ⟨admits, F, fault, on, empty', taken⟩)
  · exact .inr (.inr ⟨admits, define_refused idle orderly head l _ admits⟩)

end Define

end Lowering

end Reckoner

import Reckoner.Proofs.Lowering.Statement

/-! Statements and the program that they build.

A module built by statements realizes the definitions taken so far (`Settled`): each
function with a body is the code of one definition, and each definition has such a
function. A statement keeps this, whether it is accepted or refused, and so does what
a session does in between (`Reaches.settled`). -/
namespace Reckoner

namespace Lowering
open IR

/-! ### The invariant -/

/-- A module realizes the definitions taken so far: each has a function that implements
it, and no other function has a body. -/
structure Settled (P : Program) (m : Module) : Prop extends Orderly m where
  defined : ∀ d ∈ P, ∃ f, m.function? d.name = some f ∧ Implements m.arity? f d
  only : ∀ f ∈ m.functions, f.blocks ≠ [] → ∃ d ∈ P, d.name = f.name
  distinct : (P.map Definition.name).Nodup

section Settled
variable {P : Program} {m : Module} {p : Prototype} {F : Function}

theorem settled_empty (name : String) : Settled [] { name } where
  registry := @Module.registry_of _ [] rfl List.nodup_nil
  named := fun f hf => by cases hf
  spelled := fun f hf => by cases hf
  bare := fun f hf => by cases hf
  defined := fun d hd => by cases hd
  only := fun f hf => by cases hf
  distinct := List.nodup_nil

theorem Orderly.set (h : Orderly m) (named : F.Named) (spelled : Spelled F)
    (bare : F.name = anonymousName → F.blocks ≠ []) : Orderly (m.set F) := by
  obtain ⟨registry, mem⟩ := h.registry.set F
  have each {q : Function → Prop} (hF : q F) (old : ∀ f ∈ m.functions, q f) :
      ∀ f ∈ (m.set F).functions, q f := by
    intro f hf
    rcases (mem f).mp hf with rfl | ⟨hf, -⟩
    · exact hF
    · exact old f hf
  exact ⟨registry, each named h.named, each spelled h.spelled, each bare h.bare⟩

theorem Admits.arity? (h : Admits m p) (registry : m.Registry) (name : F.name = p.name)
    (arity : F.arity = p.params.length) {n : String} {k : Nat} (hn : m.arity? n = some k) :
    (m.set F).arity? n = some k := by
  rw [Module.arity?_set fun _ => registry.find?_ne_cell]
  by_cases here : n = F.name
  · obtain ⟨f, found, rfl⟩ := Option.map_eq_some_iff.mp hn
    rw [here, name] at found
    rw [if_pos here, arity, (h f found).2]
  · rwa [if_neg here]

/-- What is defined is not what a prototype that can be declared is about. -/
theorem Settled.name_ne (h : Settled P m) (admits : Admits m p) {d : Definition} (hd : d ∈ P) :
    d.name ≠ p.name := by
  intro same
  obtain ⟨f, found, implements⟩ := h.defined d hd
  rw [same] at found
  exact implements.blocks_ne_nil (admits f found).1

theorem Settled.defined_set (h : Settled P m) (admits : Admits m p) (name : F.name = p.name)
    (arity : F.arity = p.params.length) :
    ∀ d ∈ P, ∃ f, (m.set F).function? d.name = some f ∧ Implements (m.set F).arity? f d := by
  intro d hd
  obtain ⟨f, found, implements⟩ := h.defined d hd
  refine ⟨f, ?_, implements.mono fun n k _ hn => admits.arity? h.registry name arity hn⟩
  rw [Module.function?_set_of_ne (name ▸ h.name_ne admits hd), found]

theorem Settled.declare (h : Settled P m) (admits : Admits m p) (name : F.name = p.name)
    (arity : F.arity = p.params.length) (empty : F.blocks = []) (named : F.Named)
    (spelled : Spelled F) (ordinary : p.name ≠ anonymousName) : Settled P (m.set F) where
  toOrderly := h.toOrderly.set named spelled fun same => absurd (name.symm.trans same) ordinary
  defined := h.defined_set admits name arity
  only := by
    intro f hf body
    rcases ((h.registry.set F).2 f).mp hf with rfl | ⟨hf, -⟩
    · exact absurd empty body
    · exact h.only f hf body
  distinct := h.distinct

theorem Settled.define {body : Expr} (h : Settled P m) (admits : Admits m p) (named : F.Named)
    (spelled : Spelled F) (implements : Implements (m.set F).arity? F ⟨p.name, p.params, body⟩) :
    Settled (P ++ [⟨p.name, p.params, body⟩]) (m.set F) where
  toOrderly := h.toOrderly.set named spelled fun _ => implements.blocks_ne_nil
  defined := by
    intro d hd
    rcases List.mem_append.mp hd with hd | hd
    · exact h.defined_set admits implements.name implements.arity d hd
    · rw [List.mem_singleton.mp hd]
      exact ⟨F, implements.name ▸ h.registry.function?_set_self F, implements⟩
  only := by
    intro f hf body
    rcases ((h.registry.set F).2 f).mp hf with rfl | ⟨hf, -⟩
    · exact ⟨_, List.mem_append_right _ List.mem_cons_self, implements.name.symm⟩
    · obtain ⟨d, hd, same⟩ := h.only f hf body
      exact ⟨d, List.mem_append_left _ hd, same⟩
  distinct := by
    rw [List.map_append, List.nodup_append]
    refine ⟨h.distinct, List.pairwise_singleton _ _, fun x hx y hy => ?_⟩
    obtain ⟨d, hd, rfl⟩ := List.mem_map.mp hx
    rw [List.map_cons, List.map_nil, List.mem_singleton] at hy
    exact hy ▸ h.name_ne admits hd

/-- The function of a bare expression is called by none. -/
theorem Settled.remove (h : Settled P m) :
    Settled (P.without anonymousName) (m.remove anonymousName) where
  toOrderly := h.toOrderly.remove anonymousName
  defined := by
    intro d hd
    obtain ⟨hd, ne⟩ := List.mem_filter.mp hd
    obtain ⟨f, found, implements⟩ := h.defined d hd
    have kept {n : String} (hn : n ≠ anonymousName) :=
      @Module.function?_remove_of_ne m n anonymousName hn
    refine ⟨f, (kept (by simpa using ne)).trans found, implements.mono fun n k hn found => ?_⟩
    rwa [Module.arity?, kept hn]
  only := by
    intro f hf body
    rw [(h.registry.remove anonymousName).2] at hf
    obtain ⟨hf, ne⟩ := List.mem_filter.mp hf
    obtain ⟨d, hd, same⟩ := h.only f hf body
    exact ⟨d, List.mem_filter.mpr ⟨hd, by rw [same]; exact ne⟩, same⟩
  distinct := h.distinct.sublist (List.filter_sublist.map _)

/-- A change of every function that keeps its names and its body. -/
theorem Settled.map {k : Module} {change : Function → Function} (h : Settled P m)
    (registry : k.Registry) (functions : k.functions = m.functions.map change)
    (name : ∀ f, (change f).name = f.name) (params : ∀ f, (change f).params = f.params)
    (blocks : ∀ f, (change f).blocks = f.blocks) (named : ∀ f, f.Named → (change f).Named)
    (spelled : ∀ f, Spelled f → Spelled (change f)) : Settled P k := by
  have mem : ∀ f ∈ k.functions, ∃ g ∈ m.functions, change g = f := fun f hf => by
    rw [functions] at hf
    exact List.mem_map.mp hf
  have found (n : String) : k.function? n = (m.function? n).map change := by
    rw [registry.function?_eq, h.registry.function?_eq, functions, List.find?_map]
    simp only [Function.comp_def, name]
  have arity : k.arity? = m.arity? := by
    funext n
    rw [Module.arity?, found, Option.map_map]
    exact congrArg (Option.map · _) (funext fun f => congrArg List.length (params f))
  refine ⟨⟨registry, ?_, ?_, ?_⟩, ?_, ?_, h.distinct⟩
  · intro f hf
    obtain ⟨g, hg, rfl⟩ := mem f hf
    exact named g (h.named g hg)
  · intro f hf
    obtain ⟨g, hg, rfl⟩ := mem f hf
    exact spelled g (h.spelled g hg)
  · intro f hf same
    obtain ⟨g, hg, rfl⟩ := mem f hf
    rw [blocks]
    exact h.bare g hg ((name g).symm.trans same)
  · intro d hd
    obtain ⟨f, hf, implements⟩ := h.defined d hd
    obtain ⟨entry, v, bs, q, ns, code, perm, first⟩ := implements.code
    refine ⟨change f, by rw [found, hf, Option.map_some], (name f).trans implements.name,
      (congrArg List.length (params f)).trans implements.arity, entry, v, bs, q, ns, ?_, ?_, ?_⟩
    · rwa [arity]
    · rwa [blocks]
    · rwa [Function.labels, blocks]
  · intro f hf body
    obtain ⟨g, hg, rfl⟩ := mem f hf
    rw [blocks] at body
    rw [name]
    exact h.only g hg body

end Settled

end Lowering

open Lowering in
/-- The definitions after a statement: one more if it is a definition that is accepted.
A bare expression takes the place of the one before it. -/
def Program.after (P : Program) (g : Generator) : Expr → Program
  | .function p body l =>
    let P := if p.isAnonymous then P.without anonymousName else P
    match (g.generate (.function p body l)).1 with
    | .ok _ => P ++ [⟨p.name, p.params, body⟩]
    | .error _ => P
  | _ => P

namespace Lowering
open IR

/-! ### Generators that statements lead to -/

/-- The generators that statements lead to, with the definitions taken by then. In
between, the function of a bare expression may be removed, and functions may be
printed. -/
inductive Reaches (moduleName : String) : Program → Generator → Prop where
  | start : Reaches moduleName [] (.ofName moduleName)
  | generate {P : Program} {g : Generator} {e : Expr} : Reaches moduleName P g → e.IsStatement →
    Reaches moduleName (P.after g e) (g.generate e).2
  | remove {P : Program} {g : Generator} : Reaches moduleName P g →
    Reaches moduleName (P.without anonymousName) (g.remove anonymousName).2
  | print {P : Program} {g : Generator} : Reaches moduleName P g → Reaches moduleName P g.printed
  | printFunction {P : Program} {g : Generator} (name : String) : Reaches moduleName P g →
    Reaches moduleName P (g.printedFunction name)

section Generate
variable {P : Program} {g : Generator} {p : Prototype}

theorem generate_of_ok {e : Expr} {v : Operand} {k : Generator} (h : lower e g = .ok v k) :
    g.generate e = (.ok v, k) := by
  rw [Generator.generate, h]

theorem generate_of_error {e : Expr} {stop : Stop} {k : Generator} (h : lower e g = .error stop k) :
    g.generate e = (.error stop, k) := by
  rw [Generator.generate, h]

theorem lower_prototype (p : Prototype) : lower (.prototype p) = declare p := by
  rw [lower]

theorem lower_function (p : Prototype) (body : Expr) (l : Option Location) :
    lower (.function p body l) = define p l (lower body) := by
  rw [lower]

theorem ground_name (m : Module) (p : Prototype) : (ground m p).name = m.name := by
  unfold ground
  split <;> rfl

theorem Settled.ground (h : Settled P g.module) (p : Prototype) :
    Settled (if p.isAnonymous then P.without anonymousName else P) (ground g.module p) := by
  unfold Lowering.ground
  split
  · exact h.remove
  · exact h

theorem after_of_generate {body : Expr} {l : Option Location} {v : Operand}
    (h : (g.generate (.function p body l)).1 = .ok v) :
    P.after g (.function p body l) =
      (if p.isAnonymous then P.without anonymousName else P) ++ [⟨p.name, p.params, body⟩] := by
  simp only [Program.after, h]

theorem after_of_refused {body : Expr} {l : Option Location} {stop : Stop}
    (h : (g.generate (.function p body l)).1 = .error stop) :
    P.after g (.function p body l) = if p.isAnonymous then P.without anonymousName else P := by
  simp only [Program.after, h]

/-- What a statement makes of a generator that is settled. -/
structure Follows (g : Generator) (P : Program) (k : Generator) : Prop where
  idle : k.Idle
  settled : Settled P k.module
  name : k.module.name = g.module.name

/-- What generating a prototype does. -/
theorem generate_prototype_spec (idle : g.Idle) (registry : g.module.Registry) (named : p.name ≠ "") :
    (Admits g.module p ∧ g.generate (.prototype p) =
      (.ok (.function p.name p.params.length),
        { g with module := g.module.set (heading g.module p) })) ∨
    (¬Admits g.module p ∧ ∃ fault, g.generate (.prototype p) =
      (.error .refused, { g with faults := g.faults.push fault })) := by
  rcases declare_spec idle registry named with ⟨admits, run⟩ | ⟨blocked, fault, run⟩
  · rw [← lower_prototype] at run
    exact .inl ⟨admits, generate_of_ok run⟩
  · rw [← lower_prototype] at run
    exact .inr ⟨blocked, fault, generate_of_error run⟩

/-- What generating a definition does. -/
theorem generate_function_spec {body : Expr} (idle : g.Idle) (orderly : Orderly g.module)
    (head : IsHeading p) (term : body.IsTerm) (l : Option Location) :
    (Admits (Lowering.ground g.module p) p ∧
      ∃ F, Continues (heading (Lowering.ground g.module p) p) F ∧ F.Named ∧
      Implements ((Lowering.ground g.module p).set F).arity? F ⟨p.name, p.params, body⟩ ∧
      g.generate (.function p body l) = (.ok (.function p.name p.params.length),
        { g with module := (Lowering.ground g.module p).set F })) ∨
    (Admits (Lowering.ground g.module p) p ∧
      ∃ F fault, Continues (heading (Lowering.ground g.module p) p) F ∧ F.blocks = [] ∧
      g.generate (.function p body l) = (.error .refused, { g with
        module := if ((Lowering.ground g.module p).function? p.name).isSome
          then (Lowering.ground g.module p).set F else Lowering.ground g.module p
        faults := g.faults.push fault })) ∨
    (¬Admits (Lowering.ground g.module p) p ∧ ∃ fault, g.generate (.function p body l) =
      (.error .refused,
        { g with module := Lowering.ground g.module p, faults := g.faults.push fault })) := by
  have spec := define_spec idle orderly head term l
  rw [← lower_function] at spec
  rcases spec with
    ⟨admits, F, on, named, implements, run⟩ | ⟨admits, F, fault, on, empty, run⟩ | ⟨blocked, fault, run⟩
  · exact .inl ⟨admits, F, on, named, implements, generate_of_ok run⟩
  · exact .inr (.inl ⟨admits, F, fault, on, empty, generate_of_error run⟩)
  · exact .inr (.inr ⟨blocked, fault, generate_of_error run⟩)

/-- A declaration keeps the invariant. -/
theorem Settled.generate_prototype (h : Settled P g.module) (idle : g.Idle)
    (signature : Expr.IsSignature p) : Follows g P (g.generate (.prototype p)).2 := by
  have head := isHeading_of_isSignature signature
  rcases generate_prototype_spec idle h.registry signature.name.nonempty with
    ⟨admits, run⟩ | ⟨-, fault, run⟩
  · rw [run]
    obtain ⟨name, empty, arity, named, spelled⟩ :=
      heading_spec head admits h.registry h.named h.spelled
    exact ⟨⟨idle.site, idle.unfinished⟩,
      h.declare admits name arity empty named spelled signature.name.ne_anonymous, Module.name_set _ _⟩
  · rw [run]
    exact ⟨⟨idle.site, idle.unfinished⟩, h, rfl⟩

/-- A definition keeps the invariant, and so does a bare expression. -/
theorem Settled.generate_function {body : Expr} (h : Settled P g.module) (idle : g.Idle)
    (head : IsHeading p) (term : body.IsTerm) (l : Option Location) :
    Follows g (P.after g (.function p body l)) (g.generate (.function p body l)).2 := by
  have ground := h.ground p
  have headed (admits : Admits (Lowering.ground g.module p) p) :=
    heading_spec head admits ground.registry ground.named ground.spelled
  rcases generate_function_spec idle h.toOrderly head term l with
    ⟨admits, F, on, named, implements, run⟩ | ⟨admits, F, fault, on, empty, run⟩ | ⟨-, fault, run⟩
  · rw [after_of_generate (congrArg Prod.fst run), run]
    obtain ⟨-, -, -, -, spelled⟩ := headed admits
    exact ⟨⟨idle.site, idle.unfinished⟩,
      ground.define admits named (spelled.of_continues on) implements,
      (Module.name_set _ _).trans (ground_name _ _)⟩
  · rw [after_of_refused (congrArg Prod.fst run), run]
    obtain ⟨name, -, arity, named, spelled⟩ := headed admits
    by_cases before : ((Lowering.ground g.module p).function? p.name).isSome
    · simp only [if_pos before]
      refine ⟨⟨idle.site, idle.unfinished⟩, ?_, (Module.name_set _ _).trans (ground_name _ _)⟩
      refine ground.declare admits (on.name.trans name) (on.arity.trans arity) empty
        (named.declaration on.params on.printed on.used empty) (spelled.of_continues on) ?_
      intro anonymous
      rw [function?_ground anonymous] at before
      cases before
    · simp only [if_neg before]
      exact ⟨⟨idle.site, idle.unfinished⟩, ground, ground_name _ _⟩
  · rw [after_of_refused (congrArg Prod.fst run), run]
    exact ⟨⟨idle.site, idle.unfinished⟩, ground, ground_name _ _⟩

theorem Settled.generate {e : Expr} (h : Settled P g.module) (idle : g.Idle) (he : e.IsStatement) :
    Follows g (P.after g e) (g.generate e).2 := by
  cases he with
  | declaration signature => exact h.generate_prototype idle signature
  | definition signature term =>
    exact h.generate_function idle (isHeading_of_isSignature signature) term _
  | bare term => exact h.generate_function idle ⟨.inr rfl, fun x hx => by cases hx⟩ term _

theorem Spelled.fixNames {f : Function} (h : Spelled f) : Spelled f.fixNames :=
  ⟨h.name, h.params, h.shown, h.used⟩

theorem Settled.printed (h : Settled P g.module) : Settled P g.printed.module := by
  obtain ⟨registry, functions⟩ := h.registry.fixNames
  exact h.map registry functions (fun _ => rfl) (fun _ => rfl) (fun _ => rfl)
    (fun _ hf => hf.fixNames) fun _ hf => hf.fixNames

theorem Settled.printedFunction (h : Settled P g.module) (name : String) :
    Settled P (g.printedFunction name).module := by
  have kept : ∀ f ∈ g.module.functions, f.name = name → f.fixNames.name = name := fun _ _ same => same
  obtain ⟨registry, functions⟩ := h.registry.modify kept
  refine h.map registry functions ?_ ?_ ?_ ?_ ?_
  · intro f
    split <;> rfl
  · intro f
    split <;> rfl
  · intro f
    split <;> rfl
  · intro f hf
    split
    · exact hf.fixNames
    · exact hf
  · intro f hf
    split
    · exact hf.fixNames
    · exact hf

theorem Settled.removed (h : Settled P g.module) (idle : g.Idle) :
    Follows g (P.without anonymousName) (g.remove anonymousName).2 := by
  have removed := h.remove
  unfold Generator.remove Generator.function?
  cases found : g.module.function? anonymousName with
  | none =>
    rw [h.registry.remove_of_none found] at removed
    exact ⟨idle, removed, rfl⟩
  | some f =>
    rw [← (h.registry.function?_eq_some_iff.mp found).2] at removed ⊢
    exact ⟨⟨idle.site, idle.unfinished⟩, removed, rfl⟩

/-- **Every module that statements lead to realizes the definitions taken.** -/
theorem Reaches.settled {moduleName : String} (h : Reaches moduleName P g) :
    Follows (.ofName moduleName) P g := by
  induction h with
  | start => exact ⟨⟨rfl, rfl⟩, settled_empty moduleName, rfl⟩
  | generate _ he ih =>
    have next := ih.settled.generate ih.idle he
    exact ⟨next.idle, next.settled, next.name.trans ih.name⟩
  | remove _ ih =>
    have next := ih.settled.removed ih.idle
    exact ⟨next.idle, next.settled, next.name.trans ih.name⟩
  | print _ ih => exact ⟨⟨ih.idle.site, ih.idle.unfinished⟩, ih.settled.printed, ih.name⟩
  | printFunction name _ ih =>
    exact ⟨⟨ih.idle.site, ih.idle.unfinished⟩, ih.settled.printedFunction name, ih.name⟩

/-- What statements define are expressions without definitions in them. -/
theorem Reaches.isTerm {moduleName : String} (h : Reaches moduleName P g) :
    ∀ d ∈ P, d.body.IsTerm := by
  have without {P : Program} (all : ∀ d ∈ P, d.body.IsTerm) (name : String) :
      ∀ d ∈ P.without name, d.body.IsTerm := fun d hd => all d (List.mem_filter.mp hd).1
  induction h with
  | start => exact List.forall_mem_nil _
  | @generate P g e _ he ih =>
    have define {p : Prototype} {body : Expr} {l : Option Location} (term : body.IsTerm) :
        ∀ d ∈ P.after g (.function p body l), d.body.IsTerm := by
      have kept : ∀ d ∈ if p.isAnonymous then P.without anonymousName else P, d.body.IsTerm := by
        split
        · exact without ih _
        · exact ih
      unfold Program.after
      dsimp only
      split
      · exact List.forall_mem_append.mpr ⟨kept, List.forall_mem_singleton.mpr term⟩
      · exact kept
    cases he with
    | declaration _ => exact ih
    | definition _ term => exact define term
    | bare term => exact define term
  | remove _ ih => exact without ih _
  | print _ ih => exact ih
  | printFunction _ _ ih => exact ih

/-- The generator after a number of statements. -/
def Generator.generateAll (g : Generator) : List Expr → Generator
  | [] => g
  | e :: rest => (g.generate e).2.generateAll rest

/-- Any number of statements leads on. -/
theorem Reaches.generateAll {moduleName : String} (h : Reaches moduleName P g) {es : List Expr}
    (statements : ∀ e ∈ es, e.IsStatement) : ∃ Q, Reaches moduleName Q (g.generateAll es) := by
  induction es generalizing P g with
  | nil => exact ⟨P, h⟩
  | cons e rest ih =>
    exact ih (h.generate (statements e List.mem_cons_self)) fun x hx =>
      statements x (List.mem_cons_of_mem _ hx)

end Generate

end Lowering

end Reckoner

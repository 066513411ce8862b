import Reckoner.Proofs.IR.Renaming
import Reckoner.Proofs.Lowering.Effect
import Reckoner.Proofs.Lowering.Trace

/-! What the parameters of a declared function are named.

A prototype that is accepted asks for names of the parameters of its function, and so does the
prototype of a definition that is taken back. Their scope gives a name out once. So which
parameter has a name depends on all the prototypes since the function was declared
(`headings`): the first one that mentions the name decides where it stands, and it stands there
as long as each later one asks for it there (`IsHeldAt`, `Recorded.reflects`). Declaring a
function again under the names that it has changes nothing; otherwise it changes the names once
more (`Recorded.declares`). -/
namespace Reckoner

/-- The prototype of a name that a statement has, if it has one. -/
def Expr.prototype? (name : String) : Expr → Option Prototype
  | .prototype p | .function p _ _ => if p.name = name then some p else none
  | _ => none

theorem Expr.prototype?_of_declaration? {name : String} {e : Expr} {p : Prototype}
    (h : e.declaration? name = some p) : e.prototype? name = some p := by
  cases e with
  | prototype q => exact h
  | _ => cases h

theorem Expr.isPlain_of_isIdentifier {x : String} (h : IsIdentifier x) : IR.IsPlain x :=
  ⟨h.nonempty, fun point => absurd (h.alphanum '.' point) (by decide)⟩

/-- To set the function that is there changes nothing. -/
theorem IR.Module.Registry.set_of_function? {m : IR.Module} {f : IR.Function} (h : m.Registry)
    (found : m.function? f.name = some f) : m.set f = m := by
  have set : m.set f = m.put f := by rw [IR.Module.set, found, Option.isSome_some, if_pos rfl]
  obtain ⟨registry, functions⟩ := h.put f
  rw [set]
  refine registry.ext h rfl (functions.trans ?_)
  refine (List.map_congr_left fun g mem => ?_).trans (List.map_id' _)
  by_cases same : g.name = f.name
  · have here := h.function?_eq_some_iff.mpr ⟨mem, same⟩
    rw [if_pos same]
    exact Option.some.inj (found.symm.trans here)
  · rw [if_neg same]

theorem IR.Module.Registry.function?_modify_fixNames {m : IR.Module} (h : m.Registry)
    (name other : String) : (m.modify other IR.Function.fixNames).function? name =
      (m.function? name).map fun f => if f.name = other then f.fixNames else f := by
  obtain ⟨registry, functions⟩ := h.modify_fixNames other
  rw [registry.function?_eq, h.function?_eq, functions, List.find?_map]
  have names (f : IR.Function) : (if f.name = other then f.fixNames else f).name = f.name := by
    split <;> rfl
  simp only [Function.comp_def, names]

namespace Lowering
open IR

/-! ### Histories -/

/-- The generators that statements lead to, with these statements, accepted or not. In
between, the function of a bare expression may be removed, and functions may be printed. -/
inductive Recorded (moduleName : String) : List Expr → Generator → Prop where
  | start : Recorded moduleName [] (.ofName moduleName)
  | generate {es : List Expr} {g : Generator} {e : Expr} : Recorded moduleName es g →
    e.IsStatement → Recorded moduleName (es ++ [e]) (g.generate e).2
  | remove {es : List Expr} {g : Generator} : Recorded moduleName es g →
    Recorded moduleName es (g.remove anonymousName).2
  | print {es : List Expr} {g : Generator} : Recorded moduleName es g →
    Recorded moduleName es g.printed
  | printFunction {es : List Expr} {g : Generator} (name : String) : Recorded moduleName es g →
    Recorded moduleName es (g.printedFunction name)

/-- The parameters that a name has been declared with, after one more statement: the first
declaration counts, and behind it each prototype of the name with as many parameters. -/
def nextHeadings (name : String) (hs : List (List String)) (e : Expr) : List (List String) :=
  match hs with
  | [] => (e.declaration? name).toList.map Prototype.params
  | first :: _ =>
    hs ++ ((e.prototype? name).filter (·.params.length = first.length)).toList.map Prototype.params

def headings (name : String) (es : List Expr) : List (List String) :=
  es.foldl (nextHeadings name) []

/-- A name stands at a place throughout: it comes there first in the first list that has it, and
each later list has it there. -/
def IsHeldAt (x : String) (i : Nat) : List (List String) → Prop
  | [] => False
  | ps :: rest => if x ∈ ps then ps.idxOf x = i ∧ ∀ qs ∈ rest, qs[i]? = some x else IsHeldAt x i rest

/-- The names of parameters are those that the lists ask for. Of the names that lowering makes up
nothing is said. -/
structure NamedAfter (f : Function) (hs : List (List String)) : Prop where
  arity : ∀ ps ∈ hs, ps.length = f.arity
  used : ∀ x, IsPlain x → x ∉ ownNames → (x ∈ f.scope.used ↔ ∃ ps ∈ hs, x ∈ ps)
  params : ∀ x, IsPlain x → x ∉ ownNames → ∀ i, f.params[i]? = some x ↔ IsHeldAt x i hs

/-- What a module has of a name after the prototypes of that name. -/
inductive Reflects : Option Function → List (List String) → Prop where
  | absent : Reflects none []
  | declared {f : Function} {hs : List (List String)} : f.blocks = [] → hs ≠ [] →
    NamedAfter f hs → Reflects (some f) hs
  | defined {f : Function} {hs : List (List String)} : f.blocks ≠ [] → Reflects (some f) hs

section
variable {moduleName name x : String} {es : List Expr} {g : Generator} {e : Expr} {m : Module}
variable {hs : List (List String)} {ps : List String} {i : Nat} {f F : Function} {p : Prototype}
variable {P : Program} {o : Option Function}

theorem Recorded.reaches (h : Recorded moduleName es g) : ∃ P, Reaches moduleName P g := by
  induction h with
  | start => exact ⟨_, .start⟩
  | generate _ he ih => exact ih.elim fun _ h => ⟨_, h.generate he⟩
  | remove _ ih => exact ih.elim fun _ h => ⟨_, h.remove⟩
  | print _ ih => exact ih.elim fun _ h => ⟨_, h.print⟩
  | printFunction name _ ih => exact ih.elim fun _ h => ⟨_, h.printFunction name⟩

theorem headings_append (name : String) (es : List Expr) (e : Expr) :
    headings name (es ++ [e]) = nextHeadings name (headings name es) e := by
  rw [headings, List.foldl_append]
  rfl

/-- One more list keeps a name where it stands, or brings it in. -/
theorem isHeldAt_append : IsHeldAt x i (hs ++ [ps]) ↔
    ps[i]? = some x ∧ (IsHeldAt x i hs ∨ (¬∃ qs ∈ hs, x ∈ qs) ∧ ps.idxOf x = i) := by
  induction hs with
  | nil =>
    by_cases here : x ∈ ps
    · have at_idxOf : ps[ps.idxOf x]? = some x := List.getElem?_idxOf here
      simp only [List.nil_append, IsHeldAt, if_pos here]
      constructor
      · rintro ⟨rfl, -⟩
        exact ⟨at_idxOf, .inr ⟨by simp, rfl⟩⟩
      · rintro ⟨-, impossible | ⟨-, same⟩⟩
        · exact impossible.elim
        · exact ⟨same, List.forall_mem_nil _⟩
    · simp only [List.nil_append, IsHeldAt, if_neg here, false_iff]
      exact fun both => here (List.mem_of_getElem? both.1)
  | cons qs rest ih =>
    rw [List.cons_append]
    unfold IsHeldAt
    by_cases here : x ∈ qs
    · have mentioned : ∃ ps ∈ qs :: rest, x ∈ ps := ⟨qs, List.mem_cons_self, here⟩
      rw [if_pos here, if_pos here, List.forall_mem_append, List.forall_mem_singleton]
      constructor
      · rintro ⟨first, kept, last⟩
        exact ⟨last, .inl ⟨first, kept⟩⟩
      · rintro ⟨last, ⟨first, kept⟩ | ⟨none, -⟩⟩
        · exact ⟨first, kept, last⟩
        · exact absurd mentioned none
    · have same : (∃ ps ∈ qs :: rest, x ∈ ps) ↔ ∃ ps ∈ rest, x ∈ ps := by simp [here]
      rw [if_neg here, if_neg here, ih, same]

/-! ### Names that are asked for -/

/-- A new declaration has no names that anyone asked for. -/
theorem namedAfter_declare (name : String) (n : Nat) : NamedAfter (.declare name n) [] where
  arity := List.forall_mem_nil _
  used x plain _ := iff_of_false (Function.not_mem_used_declare n plain) (by simp)
  params x plain _ i := by
    refine iff_of_false (fun here => ?_) id
    exact Function.not_mem_used_declare n plain
      ((Function.named_declare name n).params_used (List.mem_of_getElem? here))

theorem NamedAfter.rename (h : NamedAfter f hs) (named : f.Named) (fits : f.arity = ps.length) :
    NamedAfter (f.rename ps) (hs ++ [ps]) where
  arity := by
    rw [Function.arity_rename, List.forall_mem_append, List.forall_mem_singleton]
    exact ⟨h.arity, fits.symm⟩
  used x plain other := by
    have mentioned : (∃ qs ∈ hs ++ [ps], x ∈ qs) ↔ x ∈ ps ∨ ∃ qs ∈ hs, x ∈ qs := by
      simp only [List.mem_append, List.mem_singleton, or_and_right, exists_or, exists_eq_left, or_comm]
    rw [mentioned, ← h.used x plain other]
    exact Function.mem_used_renamed_iff fits named.params_used plain
  params x plain other i := by
    rw [isHeldAt_append, ← h.params x plain other, ← h.used x plain other]
    exact Function.getElem?_renamed_iff fits named.params_used plain

theorem NamedAfter.of_continues (h : NamedAfter f hs) (on : Continues f F) : NamedAfter F hs where
  arity := on.arity ▸ h.arity
  used x plain other := by
    rw [← h.used x plain other]
    exact ⟨fun used => (on.made x used).resolve_right fun made => made.own.elim other plain.point,
      fun used => on.used used⟩
  params := on.params ▸ h.params

/-- To fix the names under which parameters are printed is no matter here. -/
theorem Reflects.fixNames (h : Reflects o hs) {change : Function → Function}
    (fixes : ∀ f, change f = f ∨ change f = f.fixNames) : Reflects (o.map change) hs := by
  cases h with
  | absent => exact .absent
  | @declared f _ empty some named =>
    rw [Option.map_some]
    rcases fixes f with same | same
    · rw [same]
      exact .declared empty some named
    · rw [same]
      exact .declared empty some ⟨named.arity, named.used, named.params⟩
  | @defined f _ written =>
    rw [Option.map_some]
    rcases fixes f with same | same
    · rw [same]
      exact .defined written
    · rw [same]
      exact .defined written

/-! ### What statements make of a name -/

/-- What a statement makes of the function of a name: nothing, or the function that a prototype
of the name is the heading of. -/
inductive Turns (m : Module) (name : String) (e : Expr) : Option Function → Prop where
  | kept : (∀ p, e.prototype? name = some p → Admits m p →
      m.function? name = none ∧ e.declaration? name = none) → Turns m name e (m.function? name)
  | headed {p : Prototype} {F : Function} : e.prototype? name = some p → Admits m p →
    Continues (heading m p) F →
    (F.blocks = [] → (m.function? name).isSome = true ∨ e.declaration? name = some p) →
    Turns m name e (some F)

theorem Effect.function?_of_other {fault : Option Fault} {k : Module} (h : Effect m e fault k)
    (ordinary : name ≠ anonymousName) (other : e.prototype? name = none) :
    k.function? name = m.function? name := by
  have set {m : Module} {p : Prototype} {F : Function} (same : F.name = p.name)
      (other : (if p.name = name then some p else none) = none) :
      (m.set F).function? name = m.function? name := by
    refine Module.function?_set_of_ne ?_
    rintro rfl
    rw [if_pos same.symm] at other
    cases other
  cases h with
  | declared _ same _ _ => exact set same other
  | undeclared _ => rfl
  | defined _ implements =>
    exact (set implements.name other).trans (function?_ground_of_ne _ ordinary)
  | takenBack _ _ same _ _ => exact (set same other).trans (function?_ground_of_ne _ ordinary)
  | withdrawn => exact function?_ground_of_ne _ ordinary

theorem Continues.refl (f : Function) : Continues f f :=
  ⟨rfl, rfl, rfl, List.Subset.refl _, fun _ => .inl⟩

theorem Settled.function?_set_heading (h : Settled P m) (p : Prototype) :
    (m.set (heading m p)).function? p.name = some (heading m p) :=
  name_heading m p ▸ h.registry.function?_set_self (heading m p)

/-- **What a statement makes of the function of a name.** -/
theorem Settled.turns (h : Settled P g.module) (idle : g.Idle) (he : e.IsStatement)
    (ordinary : name ≠ anonymousName) :
    Turns g.module name e ((g.generate e).2.module.function? name) := by
  obtain ⟨fault, effect, -⟩ := h.effect idle he
  cases headed : e.prototype? name with
  | none =>
    rw [effect.function?_of_other ordinary headed]
    exact .kept fun p here => by cases headed.symm.trans here
  | some p =>
    have only {q : Prototype} (here : e.prototype? name = some q) : q = p :=
      Option.some.inj (here.symm.trans headed)
    cases he with
    | @declaration q signature =>
      obtain ⟨rfl, same⟩ := Option.ite_none_right_eq_some.mp headed
      obtain rfl := Option.some.inj same
      rcases generate_prototype_spec idle h.registry signature.name.nonempty with
        ⟨admits, run⟩ | ⟨blocked, fault, run⟩
      · rw [run, h.function?_set_heading]
        exact .headed headed admits (.refl _) fun _ => .inr headed
      · rw [run]
        exact .kept fun r here admits => absurd (only here ▸ admits) blocked
    | @definition q body l signature term =>
      obtain ⟨rfl, same⟩ := Option.ite_none_right_eq_some.mp headed
      obtain rfl := Option.some.inj same
      have spec := generate_function_spec idle h.toOrderly (isHeading_of_isSignature signature) term l
      rw [ground_of_ne ordinary] at spec
      have set {F : Function} (on : Continues (heading g.module q) F) :
          (g.module.set F).function? q.name = some F := by
        have same : F.name = q.name := on.name.trans (name_heading g.module q)
        exact same ▸ h.registry.function?_set_self F
      rcases spec with
        ⟨admits, F, on, -, implements, run⟩ | ⟨admits, F, fault, on, empty, run⟩ |
          ⟨blocked, fault, run⟩
      · rw [run, set on]
        exact .headed headed admits on fun empty => absurd empty implements.blocks_ne_nil
      · rw [run]
        cases found : g.module.function? q.name with
        | none =>
          simp only [Option.isSome_none, Bool.false_eq_true, if_false]
          exact .kept fun _ _ _ => ⟨found, rfl⟩
        | some f =>
          simp only [Option.isSome_some, if_true, set on]
          exact .headed headed admits on fun _ => .inl (by rw [found]; rfl)
      · rw [run]
        exact .kept fun r here admits => absurd (only here ▸ admits) blocked
    | bare term =>
      obtain ⟨same, -⟩ := Option.ite_none_right_eq_some.mp headed
      exact absurd same.symm ordinary

/-- **Each statement is reflected** in the function of a name. -/
theorem Reflects.next (h : Reflects (m.function? name) hs) (named : ∀ f ∈ m.functions, f.Named)
    (registry : m.Registry) (turns : Turns m name e o) : Reflects o (nextHeadings name hs e) := by
  have grounds {p : Prototype} (here : e.prototype? name = some p) : p.name = name := by
    cases e with
    | prototype q | function q _ _ =>
      obtain ⟨rfl, same⟩ := Option.ite_none_right_eq_some.mp here
      cases same
      rfl
    | _ => cases here
  cases turns with
  | kept other =>
    generalize found : m.function? name = o at h other
    cases h with
    | absent =>
      have undeclared : e.declaration? name = none := by
        cases declared : e.declaration? name with
        | none => rfl
        | some p =>
          have here := Expr.prototype?_of_declaration? declared
          have admits : Admits m p := fun f hf => by
            rw [grounds here, found] at hf
            cases hf
          exact declared ▸ (other p here admits).2
      rw [nextHeadings, undeclared]
      exact .absent
    | @declared f _ empty some after =>
      obtain ⟨first, rest, rfl⟩ := List.exists_cons_of_ne_nil some
      have fits : first.length = f.arity := after.arity first List.mem_cons_self
      have unfit : (e.prototype? name).filter (·.params.length = first.length) = none := by
        refine Option.filter_eq_none_iff.mpr fun p here => ?_
        intro length
        have admits : Admits m p := fun k hk => by
          rw [grounds here, found, Option.some.injEq] at hk
          subst hk
          exact ⟨empty, fits.symm.trans (of_decide_eq_true length).symm⟩
        cases (other p here admits).1
      rw [nextHeadings, unfit, Option.toList_none, List.map_nil, List.append_nil]
      exact .declared empty some after
    | defined written => exact .defined written
  | @headed p F here admits on before =>
    by_cases empty : F.blocks = []
    · have same := grounds here
      subst same
      generalize found : m.function? p.name = o at h before
      have head : heading m p = (o.getD (.declare p.name p.params.length)).rename p.params := by
        rw [heading, found]
      rw [head] at on
      cases h with
      | absent =>
        have declared := (before empty).resolve_left Bool.false_ne_true
        have after := (namedAfter_declare p.name p.params.length).rename
          (Function.named_declare _ _) (Function.arity_declare _ _)
        rw [nextHeadings, declared]
        exact .declared empty (List.cons_ne_nil _ _) (after.of_continues on)
      | @declared f _ _ some after =>
        obtain ⟨first, rest, rfl⟩ := List.exists_cons_of_ne_nil some
        obtain ⟨-, fits⟩ := admits f found
        have length : p.params.length = first.length :=
          fits.symm.trans (after.arity first List.mem_cons_self).symm
        have mem := (registry.function?_eq_some_iff.mp found).1
        have next := (after.rename (named f mem) fits).of_continues on
        rw [nextHeadings, here, Option.filter_some, if_pos (decide_eq_true length)]
        exact .declared empty (by simp) next
      | @defined f _ written => exact absurd (admits f found).1 written
    · exact .defined empty

theorem Reflects.namedAfter (h : Reflects (some f) hs) (empty : f.blocks = []) :
    NamedAfter f hs := by
  cases h with
  | declared _ _ after => exact after
  | defined written => exact absurd empty written

/-- **The function of a name reflects the history** of its prototypes. -/
theorem Recorded.reflects (h : Recorded moduleName es g) (ordinary : name ≠ anonymousName) :
    Reflects (g.module.function? name) (headings name es) := by
  induction h with
  | start => exact .absent
  | @generate es g e before he ih =>
    obtain ⟨P, reaches⟩ := before.reaches
    obtain ⟨idle, settled, -⟩ := reaches.settled
    rw [headings_append]
    exact ih.next settled.named settled.registry (settled.turns idle he ordinary)
  | @remove es g before ih =>
    unfold Generator.remove
    cases found : g.function? anonymousName with
    | none => exact ih
    | some f =>
      obtain ⟨P, reaches⟩ := before.reaches
      have same : f.name = anonymousName :=
        (reaches.settled.settled.registry.function?_eq_some_iff.mp found).2
      show Reflects ((g.module.remove f.name).function? name) _
      rwa [same, Module.function?_remove_of_ne ordinary]
  | @print es g before ih =>
    obtain ⟨P, reaches⟩ := before.reaches
    show Reflects (g.module.fixNames.function? name) _
    rw [reaches.settled.settled.registry.function?_fixNames]
    exact ih.fixNames fun _ => .inr rfl
  | @printFunction es g other before ih =>
    obtain ⟨P, reaches⟩ := before.reaches
    show Reflects ((g.module.modify other Function.fixNames).function? name) _
    rw [reaches.settled.settled.registry.function?_modify_fixNames]
    exact ih.fixNames fun f => (em (f.name = other)).symm.imp (fun ne => if_neg ne) fun eq => if_pos eq

/-! ### Declaring -/

/-- A declaration that is accepted puts the heading of its prototype into the module. -/
theorem Settled.generate_of_accepted (h : Settled P g.module) (idle : g.Idle)
    (signature : Expr.IsSignature p) {v : Operand}
    (accepted : (g.generate (.prototype p)).1 = .ok v) :
    Admits g.module p ∧ g.generate (.prototype p) =
      (.ok (.function p.name p.params.length),
        { g with module := g.module.set (heading g.module p) }) := by
  rcases generate_prototype_spec idle h.registry signature.name.nonempty with run | ⟨-, fault, run⟩
  · exact run
  · rw [run] at accepted
    cases accepted

/-- A name that is asked for once is given if it is free, or stands there already. -/
theorem getElem?_heading_iff (h : Settled P m) (signature : Expr.IsSignature p)
    (distinct : p.params.Nodup) (admits : Admits m p) (asked : p.params[i]? = some x) :
    (heading m p).params[i]? = some x ↔
      ∀ f, m.function? p.name = some f → f.params[i]? = some x ∨ x ∉ f.scope.used := by
  have plain := Expr.isPlain_of_isIdentifier (signature.params x (List.mem_of_getElem? asked))
  have first : p.params.idxOf x = i := by
    obtain ⟨below, rfl⟩ := List.getElem?_eq_some_iff.mp asked
    exact distinct.idxOf_getElem i below
  unfold heading
  cases found : m.function? p.name with
  | none =>
    rw [Option.getD_none, Function.rename,
      Function.getElem?_renamed_iff (Function.arity_declare _ _)
        (Function.named_declare _ _).params_used plain]
    refine iff_of_true ⟨asked, .inr ⟨Function.not_mem_used_declare _ plain, first⟩⟩ fun f here => ?_
    cases here
  | some f =>
    have mem := (h.registry.function?_eq_some_iff.mp found).1
    rw [Option.getD_some, Function.rename,
      Function.getElem?_renamed_iff (admits f found).2 (h.named f mem).params_used plain]
    simp [asked, first]

theorem heading_or_numbered (admits : Admits m p) (asked : p.params[i]? = some x) :
    (heading m p).params[i]? = some x ∨
      ∃ n, (heading m p).params[i]? = some (Scope.numbered x n) := by
  unfold heading
  cases found : m.function? p.name with
  | none => exact Function.renamed_or_numbered (Function.arity_declare _ _) asked
  | some f => exact Function.renamed_or_numbered (admits f found).2 asked

/-- To declare a function again leaves it as it is only under the names that it has. -/
theorem set_heading_iff (h : Settled P m) (found : m.function? p.name = some f)
    (admits : Admits m p) : m.set (heading m p) = m ↔ f.params = p.params := by
  obtain ⟨mem, name⟩ := h.registry.function?_eq_some_iff.mp found
  have head : heading m p = f.rename p.params := by rw [heading, found, Option.getD_some]
  constructor
  · intro same
    have again : m.function? p.name = some (heading m p) := by
      have set := h.function?_set_heading p
      rwa [same] at set
    have kept : f.rename p.params = f := head ▸ Option.some.inj (again.symm.trans found)
    exact (Function.renamed_eq_iff f.scope (admits f found).2 (h.named f mem).params_used).mp
      (congrArg Function.params kept)
  · intro same
    rw [head, ← same, Function.rename_self]
    exact h.registry.set_of_function? (name ▸ found)

/-- The text tells whether a function is declared again under other names, unless it has been
printed. -/
theorem text_set_heading_iff (h : Settled P m) (found : m.function? p.name = some f)
    (empty : (heading m p).blocks = []) (admits : Admits m p) :
    (m.set (heading m p)).text = m.text ↔ f.params = p.params ∨ f.printed.isSome = true := by
  obtain ⟨declared, arity⟩ := admits f found
  rw [text_taken_back_iff h.toOrderly found admits (.refl _) (name_heading m p) empty]
  constructor
  · intro kept
    by_contra other
    obtain ⟨differ, unprinted⟩ := not_or.mp other
    exact kept ⟨f, found, declared, arity, Option.not_isSome_iff_eq_none.mp unprinted, differ⟩
  · rintro same ⟨k, hk, -, -, unprinted, differ⟩
    obtain rfl := Option.some.inj (found.symm.trans hk)
    rcases same with same | printed
    · exact differ same
    · rw [unprinted] at printed
      cases printed

/-- **What declaring a function comes to.** Let a declaration with distinct parameters be
accepted, after whatever statements. Its value is the function of its name, which has no body and
as many parameters.

* Each parameter has the name that is asked for, or this name with a number. It is the former if
  the function is new, or if the parameter had that name before, or else if no name of the
  function has ever been that one. For a name that lowering does not use itself this can be read
  off the statements: all the prototypes since the function was declared, those of definitions
  taken back included, must have asked for the name there, from the first on that has it.
* Declaring it once more is accepted, with the same value. It changes nothing at all if the
  parameters have the names that are asked for. If not, they get other ones once more, and the
  text of the module shows these unless the function has been printed. -/
theorem Recorded.declares (h : Recorded moduleName es g) (signature : Expr.IsSignature p)
    (distinct : p.params.Nodup) {v : Operand} (accepted : (g.generate (.prototype p)).1 = .ok v) :
    let k := (g.generate (.prototype p)).2
    v = .function p.name p.params.length ∧
      ∃ F, k.function? p.name = some F ∧ F.isDeclaration = true ∧ F.arity = p.params.length ∧
        (∀ i x, p.params[i]? = some x →
          (F.params[i]? = some x ∨ ∃ n, F.params[i]? = some (Scope.numbered x n)) ∧
          (F.params[i]? = some x ↔
            ∀ f, g.function? p.name = some f → f.params[i]? = some x ∨ x ∉ f.scope.used) ∧
          (x ∉ ownNames →
            (F.params[i]? = some x ↔ IsHeldAt x i (headings p.name (es ++ [.prototype p]))))) ∧
        (k.generate (.prototype p)).1 = .ok v ∧
        ((k.generate (.prototype p)).2 = k ↔ F.params = p.params) ∧
        ((k.generate (.prototype p)).2.module.text = k.module.text ↔
          F.params = p.params ∨ F.printed.isSome = true) := by
  intro k
  obtain ⟨P, reaches⟩ := h.reaches
  obtain ⟨idle, settled, -⟩ := reaches.settled
  obtain ⟨admits, first⟩ := settled.generate_of_accepted idle signature accepted
  have later : Recorded moduleName (es ++ [.prototype p]) k := h.generate (.declaration signature)
  obtain ⟨P', reaches'⟩ := later.reaches
  obtain ⟨idle', settled', -⟩ := reaches'.settled
  have module : k.module = g.module.set (heading g.module p) :=
    congrArg (fun result => result.2.module) first
  have value : v = .function p.name p.params.length :=
    Except.ok.inj (accepted.symm.trans (congrArg Prod.fst first))
  have found : k.module.function? p.name = some (heading g.module p) := by
    rw [module]
    exact settled.function?_set_heading p
  obtain ⟨-, empty, arity, -, -⟩ := heading_spec (isHeading_of_isSignature signature) admits
    settled.registry settled.named settled.spelled
  have admits' : Admits k.module p := fun f hf => by
    obtain rfl := Option.some.inj (found.symm.trans hf)
    exact ⟨empty, arity⟩
  have empty' := (heading_spec (isHeading_of_isSignature signature) admits' settled'.registry
    settled'.named settled'.spelled).2.1
  obtain ⟨-, again⟩ := (generate_prototype_spec idle' settled'.registry
    signature.name.nonempty).resolve_right fun blocked => blocked.1 admits'
  rw [again]
  refine ⟨value, heading g.module p, found, by rw [Function.isDeclaration, empty]; rfl, arity,
    fun i x asked => ⟨heading_or_numbered admits asked, ?_, fun other => ?_⟩,
    congrArg Except.ok value.symm, ?_, text_set_heading_iff settled' found empty' admits'⟩
  · exact getElem?_heading_iff settled signature distinct admits asked
  · have identifier := signature.params x (List.mem_of_getElem? asked)
    have reflected := later.reflects signature.name.ne_anonymous
    rw [found] at reflected
    exact (reflected.namedAfter empty).params x (Expr.isPlain_of_isIdentifier identifier) other i
  · rw [← set_heading_iff settled' found admits']
    exact ⟨fun same => congrArg Generator.module same, fun same => by rw [same]⟩

/-- After `extern f(a, b)`, the parameters of `extern f(b, a)` are named otherwise, and each
repetition names them anew. -/
theorem declares_swapped :
    let g := (Generator.ofName "kaleidoscope").generateAll [.prototype ⟨"f", ["a", "b"], none⟩]
    let k := (g.generate (.prototype ⟨"f", ["b", "a"], none⟩)).2
    (∃ F n, k.function? "f" = some F ∧ F.params[0]? = some (Scope.numbered "b" n)) ∧
      (k.generate (.prototype ⟨"f", ["b", "a"], none⟩)).2.module.text ≠ k.module.text := by
  intro g k
  have recorded : Recorded "kaleidoscope" [.prototype ⟨"f", ["a", "b"], none⟩] g :=
    .generate .start (.declaration (p := ⟨"f", ["a", "b"], none⟩) (by decide +kernel))
  obtain ⟨-, F, found, -, -, names, -, -, text⟩ :=
    recorded.declares (p := ⟨"f", ["b", "a"], none⟩) (by decide +kernel) (by decide) rfl
  obtain ⟨numbered, -, history⟩ := names 0 "b" rfl
  have other : F.params[0]? ≠ some "b" := by
    rw [Ne, history (by decide)]
    simp [headings, nextHeadings, IsHeldAt, Expr.declaration?, Expr.prototype?]
  have unprinted : F.printed = none := by
    have : k.function? "f" = some F := found
    cases this
    rfl
  obtain ⟨n, given⟩ := numbered.resolve_left other
  refine ⟨⟨F, n, found, given⟩, fun same => ?_⟩
  rcases text.mp same with same | printed
  · exact other (by rw [same]; rfl)
  · rw [unprinted] at printed
    cases printed

end

end Lowering

end Reckoner

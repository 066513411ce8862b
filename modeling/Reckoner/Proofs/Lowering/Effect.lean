import Reckoner.Proofs.Lowering.Program

/-! What a statement does to the register of functions.

For a module, a name is absent, declared or defined (`Module.status`). All that a
statement can do to a module is listed once (`Effect`): one that is accepted declares or
defines the function of its name, one that is refused records one fault
(`Settled.effect`), and no status but that of its name changes (`Effect.status`). A
function with a body is out of the reach of every later statement
(`Effect.function?_of_written`), but for the function of a bare expression. -/
namespace Reckoner

/-- The definition of a name that a statement is, if it is one. -/
def Expr.definition? (name : String) : Expr → Option Definition
  | .function p body _ => if p.name = name then some ⟨p.name, p.params, body⟩ else none
  | _ => none

/-- The declaration of a name that a statement is, if it is one. -/
def Expr.declaration? (name : String) : Expr → Option Prototype
  | .prototype p => if p.name = name then some p else none
  | _ => none

theorem Expr.definition?_of_declaration? {name : String} {e : Expr} {p : Prototype}
    (h : e.declaration? name = some p) : e.definition? name = none := by
  cases e with
  | prototype q => rfl
  | _ => cases h

namespace IR

/-- What a module knows of a name. -/
inductive Status where
  | absent
  | declared (arity : Nat)
  | defined (arity : Nat)
deriving Repr, DecidableEq

namespace Status

/-- The ways forward. -/
inductive Leads : Status → Status → Prop where
  | refl (s : Status) : Leads s s
  | declare (n : Nat) : Leads absent (declared n)
  | define (n : Nat) : Leads absent (defined n)
  | complete (n : Nat) : Leads (declared n) (defined n)

theorem Leads.trans {r s t : Status} (first : Leads r s) (second : Leads s t) : Leads r t := by
  cases first with
  | refl => exact second
  | declare n =>
    cases second with
    | refl => exact .declare n
    | complete => exact .define n
  | define n =>
    cases second
    exact .define n
  | complete n =>
    cases second
    exact .complete n

/-- A prototype with so many parameters can be declared. -/
def IsOpen (arity : Nat) : Status → Prop
  | absent => True
  | declared n => n = arity
  | defined _ => False

/-- What a statement, accepted or not, makes of the status of a name. -/
inductive Step (name : String) (e : Expr) : Bool → Status → Status → Prop where
  | define {s : Status} {d : Definition} : e.definition? name = some d →
    s.IsOpen d.params.length → Step name e true s (defined d.params.length)
  | declare {s : Status} {p : Prototype} : e.declaration? name = some p →
    s.IsOpen p.params.length → Step name e true s (declared p.params.length)
  | keep {s : Status} {accepted : Bool} :
    (accepted = true → e.definition? name = none ∧ e.declaration? name = none) →
    Step name e accepted s s

theorem Step.leads {name : String} {e : Expr} {accepted : Bool} {s t : Status}
    (h : Step name e accepted s t) : s.Leads t := by
  cases h with
  | define _ fits =>
    cases s with
    | absent => exact .define _
    | declared n => exact fits ▸ .complete n
    | defined n => exact fits.elim
  | declare _ fits =>
    cases s with
    | absent => exact .declare _
    | declared n => exact fits ▸ .refl _
    | defined n => exact fits.elim
  | keep _ => exact .refl s

theorem Step.eq_of_refused {name : String} {e : Expr} {s t : Status} (h : Step name e false s t) :
    t = s := by
  cases h
  rfl

/-- What becomes of a status follows from the statement and whether it is accepted. -/
theorem Step.eq {name : String} {e : Expr} {accepted : Bool} {s t : Status}
    (h : Step name e accepted s t) :
    t = if accepted then
      (((e.definition? name).map fun d => defined d.params.length).or
        ((e.declaration? name).map fun p => declared p.params.length)).getD s
      else s := by
  cases h with
  | define found _ =>
    rw [if_pos rfl, found]
    rfl
  | declare found _ =>
    rw [if_pos rfl, Expr.definition?_of_declaration? found, found]
    rfl
  | keep other =>
    cases accepted with
    | false => rfl
    | true =>
      rw [if_pos rfl, (other rfl).1, (other rfl).2]
      rfl

/-- The status that accepted statements give to a name: the first definition of it
counts, or else the first declaration. -/
def ofAccepted (name : String) (es : List Expr) : Status :=
  match es.findSome? (Expr.definition? name) with
  | some d => .defined d.params.length
  | none =>
    match es.findSome? (Expr.declaration? name) with
    | some p => .declared p.params.length
    | none => .absent

/-- One more accepted statement. -/
theorem Step.ofAccepted {name : String} {e : Expr} {s : Status} {es : List Expr}
    (h : Step name e true (ofAccepted name es) s) : s = ofAccepted name (es ++ [e]) := by
  have definitions : (es ++ [e]).findSome? (Expr.definition? name) = _ := List.findSome?_append
  have declarations : (es ++ [e]).findSome? (Expr.declaration? name) = _ := List.findSome?_append
  generalize before : Status.ofAccepted name es = t at h
  unfold Status.ofAccepted at before ⊢
  rw [definitions, declarations]
  cases defined : es.findSome? (Expr.definition? name) with
  | some d =>
    rw [defined] at before
    subst before
    cases h with
    | define _ fits => exact fits.elim
    | declare _ fits => exact fits.elim
    | keep _ => rfl
  | none =>
    rw [defined] at before
    cases h with
    | define found _ => simp [found]
    | @declare _ p found fits =>
      have other := Expr.definition?_of_declaration? found
      cases declared : es.findSome? (Expr.declaration? name) with
      | none => simp [found, other]
      | some q =>
        rw [declared] at before
        subst before
        have same : q.params.length = p.params.length := fits
        simp [other, same]
    | keep other => simp [other rfl, ← before]

end Status

/-- What a function makes of its name. -/
def Function.status (f : Function) : Status :=
  if f.isDeclaration then .declared f.arity else .defined f.arity

theorem Function.status_of_nil {f : Function} (h : f.blocks = []) : f.status = .declared f.arity := by
  rw [status, isDeclaration, h, List.isEmpty_nil, if_pos rfl]

theorem Function.status_of_ne_nil {f : Function} (h : f.blocks ≠ []) :
    f.status = .defined f.arity := by
  have written : f.isDeclaration = false := by simpa [isDeclaration] using h
  rw [status, written, if_neg (by decide)]

namespace Module
variable {m : Module} {name : String}

def status (m : Module) (name : String) : Status :=
  ((m.function? name).map Function.status).getD .absent

theorem status_set (h : m.Registry) (f : Function) (name : String) :
    (m.set f).status name = if name = f.name then f.status else m.status name := by
  by_cases here : name = f.name
  · rw [if_pos here, here, status, h.function?_set_self]
    rfl
  · rw [if_neg here, status, function?_set_of_ne here]
    rfl

/-! ### What lasts of a module

The function of a bare expression does not, and whether a function has been printed makes
no difference to its text. -/

/-- A module without the function of a bare expression, as it is printed. -/
def lasting (m : Module) : Module :=
  (m.remove anonymousName).fixNames

theorem Registry.function?_fixNames (h : m.Registry) (name : String) :
    m.fixNames.function? name = (m.function? name).map Function.fixNames := by
  obtain ⟨registry, functions⟩ := h.fixNames
  rw [registry.function?_eq, h.function?_eq, functions, List.find?_map]
  rfl

theorem Registry.lasting (h : m.Registry) :
    m.lasting.Registry ∧
      m.lasting.functions = (m.functions.filter (·.name ≠ anonymousName)).map Function.fixNames := by
  obtain ⟨removed, functions⟩ := h.remove anonymousName
  rw [← functions]
  exact removed.fixNames

/-- What lasts is told by the functions that last, as they are printed. -/
theorem Registry.lasting_congr {k : Module} (h : m.Registry) (hk : k.Registry)
    (name : k.name = m.name)
    (same : (k.functions.filter (·.name ≠ anonymousName)).map Function.fixNames =
      (m.functions.filter (·.name ≠ anonymousName)).map Function.fixNames) :
    k.lasting = m.lasting := by
  obtain ⟨registry, functions⟩ := h.lasting
  obtain ⟨registry', functions'⟩ := hk.lasting
  exact registry'.ext registry name (by rw [functions, functions', same])

theorem Registry.function?_lasting (h : m.Registry) (ne : name ≠ anonymousName) :
    m.lasting.function? name = (m.function? name).map Function.fixNames := by
  rw [Module.lasting, (h.remove _).1.function?_fixNames, Module.function?_remove_of_ne ne]

theorem Registry.status_lasting (h : m.Registry) (ne : name ≠ anonymousName) :
    m.lasting.status name = m.status name := by
  rw [status, h.function?_lasting ne, Option.map_map]
  rfl

theorem Registry.lasting_remove (h : m.Registry) :
    (m.remove anonymousName).lasting = m.lasting := by
  obtain ⟨registry, functions⟩ := h.remove anonymousName
  refine h.lasting_congr registry rfl ?_
  rw [functions, List.filter_filter]
  simp only [Bool.and_self]

/-- A change of functions that does not show keeps what lasts. -/
theorem Registry.lasting_map {k : Module} {change : Function → Function} (h : m.Registry)
    (hk : k.Registry) (name : k.name = m.name) (functions : k.functions = m.functions.map change)
    (same : ∀ f, (change f).fixNames = f.fixNames) : k.lasting = m.lasting := by
  refine h.lasting_congr hk name ?_
  have names (f : Function) : (change f).name = f.name :=
    show (change f).fixNames.name = f.fixNames.name from congrArg Function.name (same f)
  rw [functions, List.filter_map, List.map_map]
  simp only [Function.comp_def, names, same]

theorem Registry.lasting_fixNames (h : m.Registry) : m.fixNames.lasting = m.lasting := by
  obtain ⟨registry, functions⟩ := h.fixNames
  exact h.lasting_map registry rfl functions fun _ => rfl

/-- Fixing the value names of one function changes no name. -/
theorem Registry.modify_fixNames (h : m.Registry) (name : String) :
    (m.modify name Function.fixNames).Registry ∧
      (m.modify name Function.fixNames).functions =
        m.functions.map fun f => if f.name = name then f.fixNames else f :=
  h.modify fun _ _ same => same

theorem Registry.lasting_modify (h : m.Registry) (name : String) :
    (m.modify name Function.fixNames).lasting = m.lasting := by
  obtain ⟨registry, functions⟩ := h.modify_fixNames name
  refine h.lasting_map registry rfl functions fun f => ?_
  split <;> rfl

/-- The function of a bare expression does not last. -/
theorem Registry.lasting_set {f : Function} (h : m.Registry) (bare : f.name = anonymousName) :
    (m.set f).lasting = m.lasting := by
  refine h.lasting_congr (h.set f).1 (name_set m f) (congrArg (List.map _) ?_)
  unfold Module.set
  cases found : m.function? f.name with
  | some old =>
    rw [Option.isSome_some, if_pos rfl, (h.put f).2, bare]
    induction m.functions with
    | nil => rfl
    | cons g rest ih =>
      rw [List.map_cons, List.filter_cons, List.filter_cons, ih]
      by_cases here : g.name = anonymousName <;> simp [here, bare]
  | none =>
    rw [Option.isSome_none, if_neg (by decide), (h.add (h.function?_eq_none_iff.mp found)).2,
      List.filter_append]
    simp [bare]

/-- A module without a function of a bare expression lasts as it is. -/
theorem Registry.text_lasting (h : m.Registry) (none : m.function? anonymousName = none) :
    m.lasting.text = m.text := by
  rw [Module.lasting, h.remove_of_none none, text_fixNames]

end Module

end IR

namespace Lowering
open IR

/-- A prototype can be declared if the status of its name is open to it. -/
theorem admits_iff {m : Module} {p : Prototype} :
    Admits m p ↔ (m.status p.name).IsOpen p.params.length := by
  unfold Admits Module.status
  cases m.function? p.name with
  | none => simp [Status.IsOpen]
  | some f =>
    simp only [Option.some.injEq, forall_eq', Option.map_some, Option.getD_some]
    by_cases declared : f.blocks = []
    · rw [Function.status_of_nil declared]
      simp [Status.IsOpen, declared]
    · rw [Function.status_of_ne_nil declared]
      simp [Status.IsOpen, declared]

/-- All that a statement can do to a module. The fault is the one that it is refused for. -/
inductive Effect (m : Module) : Expr → Option Fault → Module → Prop where
  | declared {p : Prototype} {F : Function} : Admits m p → F.name = p.name →
    F.arity = p.params.length → F.blocks = [] → Effect m (.prototype p) none (m.set F)
  | undeclared {p : Prototype} {x : Fault} : ¬Admits m p → Effect m (.prototype p) (some x) m
  | defined {p : Prototype} {body : Expr} {l : Option Location} {F : Function} :
    Admits (ground m p) p → Implements ((ground m p).set F).arity? F ⟨p.name, p.params, body⟩ →
    Effect m (.function p body l) none ((ground m p).set F)
  /-- A function that was declared before is a declaration again. -/
  | takenBack {p : Prototype} {body : Expr} {l : Option Location} {F : Function} {x : Fault} :
    Admits (ground m p) p → ((ground m p).function? p.name).isSome → F.name = p.name →
    F.arity = p.params.length → F.blocks = [] →
    Effect m (.function p body l) (some x) ((ground m p).set F)
  | withdrawn {p : Prototype} {body : Expr} {l : Option Location} {x : Fault} :
    Effect m (.function p body l) (some x) (ground m p)

section Effects
variable {P : Program} {g : Generator} {m k : Module} {e : Expr} {fault : Option Fault} {name : String}

/-- **What a statement does**: it has its effect on the module, and it is accepted or
records the one fault that it is refused for. -/
theorem Settled.effect (h : Settled P g.module) (idle : g.Idle) (he : e.IsStatement) :
    ∃ fault : Option Fault, Effect g.module e fault (g.generate e).2.module ∧
      (g.generate e).1.isOk = fault.isNone ∧
      (g.generate e).2.faults.toList = g.faults.toList ++ fault.toList := by
  have accepted : g.faults.toList = g.faults.toList ++ (none : Option Fault).toList :=
    (List.append_nil _).symm
  have refused (x : Fault) : (g.faults.push x).toList = g.faults.toList ++ (some x).toList :=
    Array.toList_push
  have function {p : Prototype} {body : Expr} {l : Option Location} (head : IsHeading p)
      (term : body.IsTerm) :
      ∃ fault : Option Fault, Effect g.module (.function p body l) fault
          (g.generate (.function p body l)).2.module ∧
        (g.generate (.function p body l)).1.isOk = fault.isNone ∧
        (g.generate (.function p body l)).2.faults.toList = g.faults.toList ++ fault.toList := by
    rcases generate_function_spec idle h.toOrderly head term l with
      ⟨admits, F, -, -, implements, run⟩ | ⟨admits, F, fault, on, empty, run⟩ | ⟨-, fault, run⟩
    · rw [run]
      exact ⟨none, .defined admits implements, rfl, accepted⟩
    · rw [run]
      refine ⟨some fault, ?_, rfl, refused fault⟩
      have orderly := h.toOrderly.ground p
      obtain ⟨name, -, arity, -, -⟩ :=
        heading_spec head admits orderly.registry orderly.named orderly.spelled
      by_cases before : ((Lowering.ground g.module p).function? p.name).isSome
      · simp only [if_pos before]
        exact .takenBack admits before (on.name.trans name) (on.arity.trans arity) empty
      · simp only [if_neg before]
        exact .withdrawn
    · rw [run]
      exact ⟨some fault, .withdrawn, rfl, refused fault⟩
  cases he with
  | @declaration p signature =>
    rcases generate_prototype_spec idle h.registry signature.name.nonempty with
      ⟨admits, run⟩ | ⟨blocked, fault, run⟩
    · rw [run]
      obtain ⟨name, empty, arity, -, -⟩ := heading_spec (isHeading_of_isSignature signature) admits
        h.registry h.named h.spelled
      exact ⟨none, .declared admits name arity empty, rfl, accepted⟩
    · rw [run]
      exact ⟨some fault, .undeclared blocked, rfl, refused fault⟩
  | definition signature term => exact function (isHeading_of_isSignature signature) term
  | bare term => exact function ⟨.inr rfl, fun x hx => by cases hx⟩ term

theorem ground_registry (h : m.Registry) (p : Prototype) : (ground m p).Registry := by
  unfold ground
  split
  · exact (h.remove _).1
  · exact h

/-- The ground of a statement has all functions but that of a bare expression. -/
theorem function?_ground_of_ne (p : Prototype) (ordinary : name ≠ anonymousName) :
    (ground m p).function? name = m.function? name := by
  unfold ground
  split
  · exact Module.function?_remove_of_ne ordinary
  · rfl

theorem status_ground (p : Prototype) (ordinary : name ≠ anonymousName) :
    (ground m p).status name = m.status name := by
  rw [Module.status, function?_ground_of_ne p ordinary]
  rfl

/-- **What a statement makes of the status of a name.** -/
theorem Effect.status (h : Effect m e fault k) (registry : m.Registry)
    (ordinary : name ≠ anonymousName) :
    Status.Step name e fault.isNone (m.status name) (k.status name) := by
  cases h with
  | @declared p F admits same arity empty =>
    rw [m.status_set registry]
    by_cases here : name = F.name
    · obtain rfl : name = p.name := here.trans same
      rw [if_pos here, F.status_of_nil empty, arity]
      exact .declare (if_pos rfl) (admits_iff.mp admits)
    · rw [if_neg here]
      exact .keep fun _ => ⟨rfl, if_neg fun eq => here (eq.symm.trans same.symm)⟩
  | undeclared _ => exact .keep fun h => by cases h
  | @defined p body l F admits implements =>
    rw [Module.status_set (ground_registry registry p), status_ground p ordinary]
    by_cases here : name = F.name
    · obtain rfl : name = p.name := here.trans implements.name
      rw [if_pos here, F.status_of_ne_nil implements.blocks_ne_nil, implements.arity]
      refine .define (if_pos rfl) ?_
      rw [← status_ground (m := m) p ordinary]
      exact admits_iff.mp admits
    · rw [if_neg here]
      exact .keep fun _ => ⟨if_neg fun eq => here (eq.symm.trans implements.name.symm), rfl⟩
  | @takenBack p body l F _ admits before same arity empty =>
    have kept : ((ground m p).set F).status name = m.status name := by
      rw [Module.status_set (ground_registry registry p), ← status_ground (m := m) p ordinary]
      by_cases here : name = F.name
      · obtain rfl : name = p.name := here.trans same
        obtain ⟨f, found⟩ := Option.isSome_iff_exists.mp before
        obtain ⟨declared, arity'⟩ := admits f found
        rw [if_pos here, F.status_of_nil empty, Module.status, found, Option.map_some,
          Option.getD_some, f.status_of_nil declared, arity, arity']
      · rw [if_neg here]
    rw [kept]
    exact .keep fun h => by cases h
  | @withdrawn p body l =>
    rw [status_ground p ordinary]
    exact .keep fun h => by cases h

/-- A function with a body stays as it is. -/
theorem Effect.function?_of_written (h : Effect m e fault k) (registry : m.Registry)
    (ordinary : name ≠ anonymousName) {f : Function} (found : m.function? name = some f)
    (written : f.blocks ≠ []) : k.function? name = some f := by
  have set {m : Module} {p : Prototype} {F : Function} (registry : m.Registry)
      (found : m.function? name = some f) (admits : Admits m p) (same : F.name = p.name) :
      (m.set F).function? name = some f := by
    rw [Module.function?_set_of_ne, found]
    rintro rfl
    rw [same] at found
    exact written (admits f found).1
  have grounded (p : Prototype) := (function?_ground_of_ne p ordinary).trans found
  cases h with
  | declared admits same _ _ => exact set registry found admits same
  | undeclared _ => exact found
  | defined admits implements =>
    exact set (ground_registry registry _) (grounded _) admits implements.name
  | takenBack admits _ same _ _ => exact set (ground_registry registry _) (grounded _) admits same
  | withdrawn => exact grounded _

/-- Of a bare expression nothing lasts. -/
theorem Effect.lasting {body : Expr} (h : Effect m (.anonymous body) fault k)
    (registry : m.Registry) : k.lasting = m.lasting := by
  have grounded (p : Prototype) : (ground m p).lasting = m.lasting := by
    unfold ground
    split
    · exact registry.lasting_remove
    · rfl
  unfold Expr.anonymous at h
  cases h with
  | defined _ implements =>
    rw [(ground_registry registry _).lasting_set implements.name, grounded]
  | takenBack _ _ same _ _ => rw [(ground_registry registry _).lasting_set same, grounded]
  | withdrawn => exact grounded _

end Effects

end Lowering

end Reckoner

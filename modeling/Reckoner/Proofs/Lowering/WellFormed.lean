import Reckoner.Proofs.Lowering.Faults

/-! Which functions are generated.

A function is well-formed for a module (`IsWellFormed`) if its name is free for it and everything
in its body is known: the variables, the functions that it calls with so many arguments, and the
operators. These are the functions without faults (`faultsAt_eq_nil_iff`). A generator that has
only seen statements, removals and new cells (`Arises`) writes no function in between, so what it
makes of a function follows from its module alone: a well-formed function is generated, and any
other is refused for the first of its faults (`Arises.generates_iff`). -/
namespace Reckoner

namespace Lowering
open IR

/-! ### Well-formed functions -/

/-- The variables of an expression are parameters, it calls functions with the numbers of arguments
that they take, and its operators are known. -/
inductive IsScoped (arity? : String → Option Nat) (params : List String) : Expr → Prop where
  | number {x : Double} {l : Option Location} : IsScoped arity? params (.number x l)
  | var {name : String} {l : Option Location} : name ∈ params → IsScoped arity? params (.var name l)
  | binary {operator : String} {lhs rhs : Expr} {l : Option Location} :
    operator ∈ ["+", "-", "*", "<"] → IsScoped arity? params lhs → IsScoped arity? params rhs →
    IsScoped arity? params (.binary operator lhs rhs l)
  | call {callee : String} {args : List Expr} {l : Option Location} :
    arity? callee = some args.length → (∀ a ∈ args, IsScoped arity? params a) →
    IsScoped arity? params (.call callee args l)
  | conditional {c t e : Expr} {l : Option Location} :
    IsScoped arity? params c → IsScoped arity? params t → IsScoped arity? params e →
    IsScoped arity? params (.conditional c t e l)

/-- A function that a module has room for, with a body that can be written there. -/
structure IsWellFormed (m : Module) (p : Prototype) (body : Expr) : Prop where
  undefined : p.isAnonymous = true ∨ ∀ f, m.function? p.name = some f → f.isDeclaration = true
  clear : ∀ c, m.find? p.name ≠ some (.cell c)
  arity : ∀ f, m.function? p.name = some f → f.isDeclaration = true → f.arity = p.params.length
  body : IsScoped (arityWithin m.status p) p.params body

theorem isSome_ofString?_iff {operator : String} :
    (Operation.ofString? operator).isSome = true ↔ operator ∈ ["+", "-", "*", "<"] := by
  unfold Operation.ofString?
  split <;> simp_all

theorem faultUnless_eq_nil_iff {P : Prop} [Decidable P] {x : Fault} :
    (if P then [] else [x]) = [] ↔ P := by
  simp

section Bodies
variable {arity? : String → Option Nat} {params : List String}

theorem callFaults_eq_nil_iff {callee : String} {count : Nat} {l : Option Location} :
    callFaults arity? callee count l = [] ↔ arity? callee = some count := by
  unfold callFaults
  cases arity? callee with
  | none => exact iff_of_false (List.cons_ne_nil _ _) (Option.some_ne_none _).symm
  | some n => rw [faultUnless_eq_nil_iff, Option.some.injEq]

mutual

/-- Nothing is wrong with an expression if and only if everything in it is known. -/
theorem faultsIn_eq_nil_iff : {e : Expr} → e.IsBody →
    (faultsIn arity? params e = [] ↔ IsScoped arity? params e)
  | .number _ _, _ => iff_of_true rfl .number
  | .var _ _, _ => by
    rw [faultsIn, faultUnless_eq_nil_iff]
    exact ⟨.var, fun | .var known => known⟩
  | .binary _ _ _ _, h => by
    rw [faultsIn, List.append_eq_nil_iff, List.append_eq_nil_iff, faultsIn_eq_nil_iff h.1,
      faultsIn_eq_nil_iff h.2, faultUnless_eq_nil_iff, isSome_ofString?_iff]
    exact ⟨fun ⟨known, x, y⟩ => .binary known x y, fun | .binary known x y => ⟨known, x, y⟩⟩
  | .call _ _ _, h => by
    rw [faultsIn, List.append_eq_nil_iff, callFaults_eq_nil_iff, faultsInAll_eq_nil_iff h]
    exact ⟨fun ⟨known, args⟩ => .call known args, fun | .call known args => ⟨known, args⟩⟩
  | .conditional _ _ _ _, h => by
    rw [faultsIn, List.append_eq_nil_iff, List.append_eq_nil_iff, faultsIn_eq_nil_iff h.1,
      faultsIn_eq_nil_iff h.2.1, faultsIn_eq_nil_iff h.2.2]
    exact ⟨fun ⟨c, t, e⟩ => .conditional c t e, fun | .conditional c t e => ⟨c, t, e⟩⟩

theorem faultsInAll_eq_nil_iff : {es : List Expr} → Expr.AreBodies es →
    (faultsInAll arity? params es = [] ↔ ∀ e ∈ es, IsScoped arity? params e)
  | [], _ => iff_of_true rfl (List.forall_mem_nil _)
  | _ :: _, h => by
    rw [faultsInAll, List.append_eq_nil_iff, faultsIn_eq_nil_iff h.1, faultsInAll_eq_nil_iff h.2,
      List.forall_mem_cons]

end

/-- The codes of what can be wrong with a statement. All values are doubles there, and
expressions are within functions. -/
def statementCodes : List String :=
  ["C001", "C002", "C003", "C004", "C006"]

theorem code_of_mem_faultUnless {P : Prop} [Decidable P] {x : Fault} (h : x.code ∈ statementCodes) :
    ∀ y ∈ if P then [] else [x], y.code ∈ statementCodes := by
  split
  · exact List.forall_mem_nil _
  · exact List.forall_mem_singleton.mpr h

theorem code_of_mem_callFaults (callee : String) (count : Nat) (l : Option Location) :
    ∀ x ∈ callFaults arity? callee count l, x.code ∈ statementCodes := by
  unfold callFaults
  split
  · exact List.forall_mem_singleton.mpr (List.mem_of_elem_eq_true rfl)
  · exact code_of_mem_faultUnless (List.mem_of_elem_eq_true rfl)

mutual

theorem code_of_mem_faultsIn : (e : Expr) →
    ∀ x ∈ faultsIn arity? params e, x.code ∈ statementCodes
  | .number _ _ | .prototype _ | .function _ _ _ => List.forall_mem_nil _
  | .var _ _ => by
    rw [faultsIn]
    exact code_of_mem_faultUnless (List.mem_of_elem_eq_true rfl)
  | .binary _ lhs rhs _ => by
    rw [faultsIn, List.forall_mem_append, List.forall_mem_append]
    exact ⟨code_of_mem_faultUnless (List.mem_of_elem_eq_true rfl), code_of_mem_faultsIn lhs,
      code_of_mem_faultsIn rhs⟩
  | .call callee args l => by
    rw [faultsIn, List.forall_mem_append]
    exact ⟨code_of_mem_callFaults callee args.length l, code_of_mem_faultsInAll args⟩
  | .conditional c t e _ => by
    rw [faultsIn, List.forall_mem_append, List.forall_mem_append]
    exact ⟨code_of_mem_faultsIn c, code_of_mem_faultsIn t, code_of_mem_faultsIn e⟩

theorem code_of_mem_faultsInAll : (es : List Expr) →
    ∀ x ∈ faultsInAll arity? params es, x.code ∈ statementCodes
  | [] => List.forall_mem_nil _
  | e :: rest => by
    rw [faultsInAll, List.forall_mem_append]
    exact ⟨code_of_mem_faultsIn e, code_of_mem_faultsInAll rest⟩

end

end Bodies

section Statements
variable {m : Module} {p : Prototype} {body : Expr} {l : Option Location}

theorem code_of_mem_headingFaults :
    ∀ x ∈ headingFaults m p l, x.code ∈ statementCodes := by
  unfold headingFaults
  split
  · exact List.forall_mem_nil _
  · exact List.forall_mem_singleton.mpr (List.mem_of_elem_eq_true rfl)
  · unfold headFaults
    split
    · exact List.forall_mem_nil _
    · exact code_of_mem_faultUnless (List.mem_of_elem_eq_true rfl)
    · exact List.forall_mem_singleton.mpr (List.mem_of_elem_eq_true rfl)

theorem code_of_mem_faultsAt (m : Module) (p : Prototype) (body : Expr) (l : Option Location) :
    ∀ x ∈ faultsAt m (.function p body l), x.code ∈ statementCodes := by
  rw [faultsAt, List.forall_mem_append]
  refine ⟨?_, code_of_mem_faultsIn body⟩
  split
  · exact List.forall_mem_nil _
  · exact code_of_mem_headingFaults

/-- A prototype has no faults if its name is new, or declared with as many parameters. -/
theorem headingFaults_eq_nil_iff :
    headingFaults m p l = [] ↔ (∀ c, m.find? p.name ≠ some (.cell c)) ∧
      ∀ f, m.function? p.name = some f → f.isDeclaration = true ∧ f.arity = p.params.length := by
  unfold headingFaults
  simp only [Module.function?_eq_some_iff]
  cases m.find? p.name with
  | none => simp
  | some global =>
    cases global with
    | cell c => simp
    | function f =>
      rw [headFaults_eq_nil_iff]
      by_cases declared : f.blocks = []
      · simp [f.status_of_nil declared, Status.IsOpen, Function.isDeclaration, declared]
      · simp [f.status_of_ne_nil declared, Status.IsOpen, Function.isDeclaration, declared]

/-- **The well-formed functions are those without faults.** -/
theorem faultsAt_eq_nil_iff (simple : body.IsBody) :
    faultsAt m (.function p body l) = [] ↔ IsWellFormed m p body := by
  rw [faultsAt, List.append_eq_nil_iff, faultsIn_eq_nil_iff simple]
  by_cases replaced : replaces m p = true
  · obtain ⟨anonymous, written⟩ := (Bool.and_eq_true _ _).mp replaced
    obtain ⟨f, found, filled⟩ := (Option.any_eq_true _ _).mp written
    have only : ∀ h, m.function? p.name = some h → h.isDeclaration = false := by
      rintro h there
      obtain rfl := Option.some.inj (found.symm.trans there)
      exact (Bool.not_eq_true' _).mp filled
    rw [if_pos replaced]
    refine ⟨fun clean => ⟨.inl anonymous, fun c cell => ?_, fun h there bare => ?_, clean.2⟩,
      fun formed => ⟨rfl, formed.body⟩⟩
    · cases (Module.function?_eq_some_iff.mp found).symm.trans cell
    · rw [only h there] at bare
      cases bare
  · rw [if_neg replaced, headingFaults_eq_nil_iff]
    constructor
    · rintro ⟨⟨clear, known⟩, inner⟩
      exact ⟨.inr fun f there => (known f there).1, clear, fun f there _ => (known f there).2, inner⟩
    · intro formed
      refine ⟨⟨formed.clear, fun f there => ?_⟩, formed.body⟩
      have bare : f.isDeclaration = true := by
        rcases formed.undefined with anonymous | undefined
        · simpa [replaces, anonymous, there] using replaced
        · exact undefined f there
      exact ⟨bare, formed.arity f there bare⟩

end Statements

/-! ### Generation -/

/-- The generators that statements lead to, if functions may be removed and cells added in
between. -/
inductive Arises : Generator → Prop where
  | start (moduleName : String) : Arises (.ofName moduleName)
  | generate {g : Generator} {e : Expr} : Arises g → e.IsStatement → Arises (g.generate e).2
  | remove {g : Generator} (name : String) : Arises g → Arises (g.remove name).2
  | cell {g k : Generator} {name : String} : Arises g → g.addCell name = .ok k → Arises k

variable {g : Generator} {p : Prototype} {body : Expr}

/-- Between statements no function is being written. -/
theorem Arises.idle (h : Arises g) : g.Idle := by
  induction h with
  | start => exact ⟨rfl, rfl⟩
  | generate _ he ih =>
    obtain ⟨v, records⟩ := lower_records ih he
    unfold Generator.generate
    generalize lower _ _ = result at records ⊢
    generalize faultsAt _ _ = faults at records
    cases records with
    | accepted idle _ => exact idle
    | refused idle _ => exact idle
  | remove name _ ih =>
    unfold Generator.remove
    split
    · exact ih
    · exact ⟨ih.site, ih.unfinished⟩
  | cell _ added ih =>
    unfold Generator.addCell at added
    split at added
    · cases added
      exact ⟨ih.site, ih.unfinished⟩
    · cases added

/-- **A function is generated if and only if it is well-formed.** Otherwise the first of its
faults is recorded, and no other. -/
theorem Arises.generates_iff (h : Arises g) (named : p.name ≠ "") (simple : body.IsBody)
    (l : Option Location) :
    ((∃ k, g.generate (.function p body l) = (.ok (.function p.name p.params.length), k) ∧
        k.faults = g.faults) ↔ IsWellFormed g.module p body) ∧
      (¬IsWellFormed g.module p body →
        ∃ x k, (faultsAt g.module (.function p body l)).head? = some x ∧
          x.code ∈ statementCodes ∧
          g.generate (.function p body l) = (.error .refused, k) ∧
          k.faults = g.faults.push x) := by
  have records := define_records h.idle named simple l
  rw [← lower_function] at records
  have code := code_of_mem_faultsAt g.module p body l
  rw [← faultsAt_eq_nil_iff (l := l) simple]
  unfold Generator.generate
  generalize lower _ g = result at records ⊢
  generalize faultsAt _ _ = faults at records code ⊢
  cases records with
  | accepted _ same => exact ⟨iff_of_true ⟨_, rfl, same⟩ rfl, fun faulty => absurd rfl faulty⟩
  | refused _ recorded =>
    refine ⟨iff_of_false ?_ (List.cons_ne_nil _ _), fun _ => ?_⟩
    · rintro ⟨k, run, -⟩
      cases run
    · exact ⟨_, _, rfl, code _ List.mem_cons_self, rfl, recorded⟩

/-- Behind `extern f(x)`, of two unknown names the first one is reported; with a body that is all
known the declaration is filled in. -/
theorem generates_of_extern :
    let g := ((Generator.ofName "kaleidoscope").generate (.prototype ⟨"f", ["x"], none⟩)).2
    let other := Expr.call "f" [.var "a" none] none
    (∃ k, g.generate (.function ⟨"f", ["a"], none⟩ (.binary "-" (.var "b" none) (.call "h" [] none)
        none) none) = (.error .refused, k) ∧ k.faults = #[⟨.unknownVariable "b", none⟩]) ∧
      ∃ k, g.generate (.function ⟨"f", ["a"], none⟩ (.binary "<" (.var "a" none) other none) none) =
        (.ok (.function "f" 1), k) ∧ k.faults = #[] := by
  intro g other
  have reached : Arises g :=
    (Arises.start _).generate (.declaration (p := ⟨"f", ["x"], none⟩) (by decide +kernel))
  have named : "f" ≠ "" := by decide
  have simple : (Expr.binary "-" (.var "b" none) (.call "h" [] none) none).IsBody :=
    ⟨trivial, trivial⟩
  have usual : (Expr.binary "<" (.var "a" none) other none).IsBody := ⟨trivial, trivial, trivial⟩
  have faulty := mt (faultsAt_eq_nil_iff (m := g.module) (p := ⟨"f", ["a"], none⟩) (l := none)
    simple).mpr (by decide +kernel)
  have formed := (faultsAt_eq_nil_iff (m := g.module) (p := ⟨"f", ["a"], none⟩) (l := none)
    usual).mp (by decide +kernel)
  obtain ⟨x, k, first, -, run, faults⟩ := (reached.generates_iff named simple none).2 faulty
  have unknown : (⟨.unknownVariable "b", none⟩ : Fault) = x :=
    Option.some.inj (Eq.trans (by decide +kernel) first)
  refine ⟨⟨k, run, faults.trans ?_⟩, (reached.generates_iff named usual none).1.mpr formed⟩
  rw [← unknown]
  rfl

/-- A function without a name breaks off the generation, although nothing else is wrong. -/
theorem nameless_not_generated :
    let g := Generator.ofName "kaleidoscope"
    let one := Expr.number (1.0 : Float) none
    Arises g ∧ IsWellFormed g.module ⟨"", [], none⟩ one ∧
      (g.generate (.function ⟨"", [], none⟩ one none)).1 = .error (.misused (.nameTaken "")) := by
  intro g one
  have simple : one.IsBody := trivial
  exact ⟨.start _, (faultsAt_eq_nil_iff (l := none) simple).mp rfl, rfl⟩

end Lowering

end Reckoner

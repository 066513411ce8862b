import Reckoner.Lowering.Generator
import Reckoner.Proofs.Expr.Places

/-! Lowering and the places of trees.

A place is only put into the fault that a tree is refused for. So a tree with its places
changed is lowered as it was, to the same module with the same value, and its fault has its
place changed likewise (`generate_relocate`). -/
namespace Reckoner.Lowering
open IR

section
variable (φ : Option Location → Option Location)

def Fault.relocate (x : Fault) : Fault :=
  { x with location := φ x.location }

/-- The generator with the places of its faults changed. -/
def Generator.relocate (g : Generator) : Generator :=
  { g with faults := g.faults.map (Fault.relocate φ) }

/-- The result of a step with the places of the faults changed. -/
def relocated {α : Type} : EStateM.Result Stop Generator α → EStateM.Result Stop Generator α
  | .ok a g => .ok a (g.relocate φ)
  | .error stop g => .error stop (g.relocate φ)

/-- Two steps that do the same but for the places of the faults that they record. -/
def Repeats {α : Type} (x y : Lower α) : Prop :=
  ∀ g : Generator, y (g.relocate φ) = relocated φ (x g)

end

section
variable {φ : Option Location → Option Location} {α β : Type}

theorem Repeats.pure (a : α) : Repeats φ (Pure.pure a : Lower α) (Pure.pure a) :=
  fun _ => rfl

theorem Repeats.bind {x y : Lower α} {f k : α → Lower β} (first : Repeats φ x y)
    (rest : ∀ a, Repeats φ (f a) (k a)) : Repeats φ (x >>= f) (y >>= k) := by
  intro g
  simp only [Bind.bind, EStateM.bind]
  rw [first g]
  cases x g with
  | ok a h => exact rest a h
  | error stop h => rfl

theorem repeats_refuse (cause : Cause) (l : Option Location) :
    Repeats φ (refuse cause l : Lower α) (refuse cause (φ l)) := by
  intro g
  simp [refuse, relocated, Generator.relocate, Fault.relocate]

theorem repeats_misuse (m : Misuse) : Repeats φ (misuse m : Lower α) (misuse m) :=
  fun _ => rfl

theorem repeats_onSite (change : Site → α × Site) : Repeats φ (onSite change) (onSite change) := by
  intro g
  unfold onSite
  cases site : g.site with
  | none => simp [Generator.relocate, site, relocated]
  | some s => simp [Generator.relocate, site, relocated]

theorem repeats_requireFunction (construct : Construct) (l : Option Location) :
    Repeats φ (requireFunction construct l) (requireFunction construct (φ l)) := by
  intro g
  have site : (g.relocate φ).site = g.site := rfl
  unfold requireFunction
  rw [site]
  split
  · rfl
  · exact repeats_refuse _ l g

theorem repeats_operate (operation : Operation) (x y : Operand) :
    Repeats φ (operate operation x y) (operate operation x y) := by
  cases operation with
  | arithmetic op =>
    unfold operate
    dsimp only
    split
    · exact repeats_misuse _
    · exact repeats_onSite _
  | less => exact (repeats_onSite _).bind fun flag => repeats_onSite _

theorem repeats_invoke (callee : String) (args : List Operand) :
    Repeats φ (invoke callee args) (invoke callee args) := by
  unfold invoke
  split
  · exact repeats_misuse _
  · exact repeats_onSite _

theorem repeats_lowerBranch {x y : Lower Operand} (position : Position) (l : Option Location)
    (join : String) (branch : Repeats φ x y) :
    Repeats φ (lowerBranch position l join x) (lowerBranch position (φ l) join y) := by
  refine branch.bind fun value => ?_
  split
  · exact repeats_refuse _ l
  · exact (repeats_onSite _).bind fun block => .pure _

theorem repeats_lowerConditional {x y z x' y' z' : Lower Operand} (l k j : Option Location)
    (condition : Repeats φ x x') (consequence : Repeats φ y y') (alternative : Repeats φ z z') :
    Repeats φ (lowerConditional x y z l k j) (lowerConditional x' y' z' (φ l) (φ k) (φ j)) := by
  refine (repeats_requireFunction _ l).bind fun _ => condition.bind fun value => ?_
  split
  · exact repeats_refuse _ l
  · refine (repeats_onSite _).bind fun flag => (repeats_onSite _).bind fun yes => ?_
    refine (repeats_onSite _).bind fun no => (repeats_onSite _).bind fun join => ?_
    refine (repeats_onSite _).bind fun _ => (repeats_onSite _).bind fun _ => ?_
    refine (repeats_lowerBranch _ k join consequence).bind fun taken => ?_
    refine (repeats_onSite _).bind fun _ => ?_
    refine (repeats_lowerBranch _ j join alternative).bind fun other => ?_
    exact (repeats_onSite _).bind fun _ => repeats_onSite _

theorem repeats_lowerVariable (name : String) (l : Option Location) :
    Repeats φ (lowerVariable name l) (lowerVariable name (φ l)) := by
  intro g
  have site : (g.relocate φ).site = g.site := rfl
  unfold lowerVariable
  rw [site]
  split
  · rfl
  · exact repeats_refuse _ l g

theorem repeats_checkCall (callee : String) (count : Nat) (l : Option Location) :
    Repeats φ (checkCall callee count l) (checkCall callee count (φ l)) := by
  intro g
  have module : (g.relocate φ).module = g.module := rfl
  unfold checkCall
  rw [module]
  split
  · exact repeats_refuse _ l g
  · split
    · exact repeats_refuse _ l g
    · exact repeats_requireFunction _ l g

/-! ### Functions -/

theorem repeats_declare (p : Prototype) : Repeats φ (declare p) (declare (p.relocate φ)) := by
  intro g
  have module : (g.relocate φ).module = g.module := rfl
  have defined : (g.relocate φ).isDefined p.name = g.isDefined p.name := rfl
  unfold declare
  simp only [Prototype.relocate, module, defined]
  split
  · exact repeats_refuse _ _ g
  · split
    · exact repeats_refuse _ _ g
    · split
      · exact repeats_refuse _ _ g
      · rfl
  · split
    · rfl
    · rfl

theorem relocate_suspend (g : Generator) : (g.relocate φ).suspend = g.suspend.relocate φ := by
  cases site : g.site <;> simp [Generator.suspend, Generator.relocate, site]

theorem relocate_start (g : Generator) (p : Prototype) (f : Function) :
    (g.relocate φ).start (p.relocate φ) f = (g.start p f).relocate φ := rfl

theorem relocate_close (g : Generator) (name : String) :
    (g.relocate φ).close name = (g.close name).relocate φ := by
  rw [Generator.close, Generator.close, relocate_suspend]
  rfl

theorem takeBack_relocate (g : Generator) (name : String) (declared : Bool) :
    (g.relocate φ).takeBack name declared = relocated φ (g.takeBack name declared) := by
  have unfinished : (g.relocate φ).unfinished = g.unfinished := rfl
  have module : ((g.close name).relocate φ).module = (g.close name).module := rfl
  unfold Generator.takeBack
  simp only [unfinished, relocate_close, module]
  split
  · split <;> rfl
  · split <;> rfl

theorem finish_relocate (g : Generator) (p : Prototype) (value : Operand) :
    (g.relocate φ).finish (p.relocate φ) value = relocated φ (g.finish p value) := by
  have last : leave (.ret value) (g.relocate φ) = relocated φ (leave (.ret value) g) :=
    repeats_onSite _ g
  unfold Generator.finish
  rw [last]
  cases leave (.ret value) g with
  | ok _ h => simp [relocated, relocate_close, Prototype.relocate]
  | error stop h => simp [relocated, relocate_close, Prototype.relocate]

theorem repeats_writeBody {x y : Lower Operand} (p : Prototype) (l : Option Location)
    (declared : Bool) (body : Repeats φ x y) :
    Repeats φ (writeBody p l declared x) (writeBody (p.relocate φ) (φ l) declared y) := by
  intro g
  have module : (g.relocate φ).module = g.module := rfl
  have name : (p.relocate φ).name = p.name := rfl
  unfold writeBody
  rw [name, module]
  cases g.module.function? p.name with
  | none => rfl
  | some f =>
    dsimp only
    rw [relocate_suspend, relocate_start, body]
    cases x (g.suspend.start p f) with
    | error stop h =>
      cases stop with
      | refused => exact takeBack_relocate h p.name declared
      | misused m => exact congrArg (EStateM.Result.error _) (relocate_close h p.name)
    | ok value h =>
      dsimp only [relocated]
      split
      · exact finish_relocate h p value
      · refine .trans ?_ (takeBack_relocate _ p.name declared)
        simp [Generator.relocate, Fault.relocate]

theorem repeats_define {x y : Lower Operand} (p : Prototype) (l : Option Location)
    (body : Repeats φ x y) : Repeats φ (define p l x) (define (p.relocate φ) (φ l) y) := by
  intro g
  have name : (p.relocate φ).name = p.name := rfl
  have anonymous : (p.relocate φ).isAnonymous = p.isAnonymous := rfl
  have module : (g.relocate φ).module = g.module := rfl
  have defined : (g.relocate φ).isDefined p.name = g.isDefined p.name := rfl
  have ground : (if g.isDefined p.name then (g.relocate φ).discard p.name else g.relocate φ) =
      (if g.isDefined p.name then g.discard p.name else g).relocate φ := by
    split <;> rfl
  unfold define
  dsimp only
  rw [name, anonymous, module, defined, ground]
  split
  · exact repeats_refuse _ l g
  · rw [repeats_declare p]
    cases declare p (if g.isDefined p.name then g.discard p.name else g) with
    | error stop h => rfl
    | ok value h => exact repeats_writeBody p l _ body h

/-! ### Trees -/

mutual

theorem repeats_lower : (e : Expr) → Repeats φ (lower e) (lower (e.relocate φ))
  | .number x l => by
    rw [Expr.relocate, lower, lower]
    exact .pure _
  | .var name l => by
    rw [Expr.relocate, lower, lower]
    exact repeats_lowerVariable name l
  | .binary operator lhs rhs l => by
    rw [Expr.relocate, lower, lower]
    split
    · exact repeats_refuse _ l
    · refine (repeats_requireFunction _ l).bind fun _ => (repeats_lower lhs).bind fun x => ?_
      exact (repeats_lower rhs).bind fun y => repeats_operate _ x y
  | .call callee args l => by
    rw [Expr.relocate, lower, lower, Expr.relocateAll_eq_map, List.length_map,
      ← Expr.relocateAll_eq_map]
    exact (repeats_checkCall callee args.length l).bind fun _ =>
      (repeats_lowerAll args).bind fun xs => repeats_invoke callee xs
  | .conditional x y z l => by
    rw [Expr.relocate, lower, lower, Expr.location_relocate, Expr.location_relocate]
    exact repeats_lowerConditional l _ _ (repeats_lower x) (repeats_lower y) (repeats_lower z)
  | .prototype p => by
    rw [Expr.relocate, lower, lower]
    exact repeats_declare p
  | .function p body l => by
    rw [Expr.relocate, lower, lower]
    exact repeats_define p l (repeats_lower body)

theorem repeats_lowerAll : (es : List Expr) → Repeats φ (lowerAll es) (lowerAll (Expr.relocateAll φ es))
  | [] => by
    rw [Expr.relocateAll, lowerAll]
    exact .pure _
  | e :: rest => by
    rw [Expr.relocateAll, lowerAll, lowerAll]
    exact (repeats_lower e).bind fun x => (repeats_lowerAll rest).bind fun xs => .pure _

end

/-- **Places do not matter to lowering**, but for those of its faults. -/
theorem generate_relocate (g : Generator) (e : Expr) :
    (g.relocate φ).generate (e.relocate φ) = ((g.generate e).1, (g.generate e).2.relocate φ) := by
  have same := repeats_lower (φ := φ) e g
  unfold Generator.generate
  rw [same]
  cases lower e g <;> rfl

end

end Reckoner.Lowering

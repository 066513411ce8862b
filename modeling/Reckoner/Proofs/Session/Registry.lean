import Reckoner.Proofs.Lowering.Effect
import Reckoner.Proofs.Session.Events

/-! The register of functions in a session.

Whatever a session reads, the status of a name is the one that the statements accepted so
far give to it (`status_after`), and it only moves forward; a function that has a body
keeps it (`forward_after`). Between two statements a session prints and removes functions,
which changes nothing that lasts (`lasting_perform`). -/
namespace Reckoner.Session
open IR Lowering

/-- The statements that have been accepted in so many rounds, in order. -/
def accepted (options : Options) (llvm : Llvm) (f : Feed) : Nat → List Expr
  | 0 => []
  | n + 1 =>
    accepted options llvm f n ++
      ((after options llvm f n).bind fun (s, g) =>
        (s.statement? g).filter fun e => (s.generator.generate e).1.isOk).toList

section
variable {options : Options} {llvm : Llvm} {n : Nat} {s t : Session} {f g : Feed} {P : Program}
variable {moduleName name : String} {e : Expr}

theorem accepted_succ (h : after options llvm f n = some (s, g)) :
    accepted options llvm f (n + 1) =
      accepted options llvm f n ++
        ((s.statement? g).filter fun e => (s.generator.generate e).1.isOk).toList := by
  rw [accepted, h]
  rfl

/-! ### What lasts of a statement -/

theorem module_remove {k : Generator} (registry : k.module.Registry) (name : String) :
    (k.remove name).2.module = k.module.remove name := by
  unfold Generator.remove Generator.function?
  cases found : k.module.function? name with
  | none => exact (registry.remove_of_none found).symm
  | some f =>
    show k.module.remove f.name = _
    rw [(registry.function?_eq_some_iff.mp found).2]

theorem registry_showIR (registry : s.generator.module.Registry) (what name : String) :
    (s.showIR what name).generator.module.Registry := by
  unfold showIR
  split
  · split
    · exact (registry.modify_fixNames name).1
    · exact registry
  · exact registry

theorem lasting_showIR (registry : s.generator.module.Registry) (what name : String) :
    (s.showIR what name).generator.module.lasting = s.generator.module.lasting := by
  unfold showIR
  split
  · split
    · exact registry.lasting_modify name
    · rfl
  · rfl

theorem module_evaluate (registry : s.generator.module.Registry) (llvm : Llvm) :
    (s.evaluate llvm).generator.module = s.generator.module.fixNames.remove anonymousName := by
  rw [generator_evaluate]
  exact module_remove registry.fixNames.1 anonymousName

theorem lasting_evaluate (registry : s.generator.module.Registry) (llvm : Llvm) :
    (s.evaluate llvm).generator.module.lasting = s.generator.module.lasting := by
  rw [module_evaluate registry, registry.fixNames.1.lasting_remove, registry.lasting_fixNames]

theorem lasting_extend (registry : (s.generator.generate e).2.module.Registry)
    (parsed lowered name : String) :
    (s.extend parsed lowered name e).generator.module.lasting =
      (s.generator.generate e).2.module.lasting := by
  have next : ((s.showParse parsed e).lower e).2.generator = (s.generator.generate e).2 := by
    rw [generator_lower, generator_showParse]
  rcases extend_eq_or s parsed lowered name e with same | same
  · rw [same, next]
  · rw [same, lasting_showIR (next ▸ registry), next]

/-- A statement lasts as it has been lowered. -/
theorem lasting_perform (h : Reaches moduleName P s.generator) (he : e.IsStatement) (llvm : Llvm) :
    (s.perform llvm e).generator.module.lasting = (s.generator.generate e).2.module.lasting := by
  have registry := (h.generate he).settled.settled.registry
  have done := performs he s llvm
  generalize s.perform llvm e = u at done ⊢
  cases done with
  | extend _ _ _ _ _ => exact lasting_extend registry _ _ _
  | refuse _ _ => rw [generator_lowered]
  | @evaluate body t _ shown =>
    rw [← generator_lowered] at registry ⊢
    rw [shown, lasting_evaluate (registry_showIR registry _ _), lasting_showIR registry]

/-! ### One statement, one round -/

section
variable (h : Reaches moduleName P s.generator) (he : e.IsStatement)
  (ordinary : name ≠ anonymousName)
include h he ordinary

theorem status_perform (llvm : Llvm) :
    Status.Step name e (s.generator.generate e).1.isOk (s.generator.module.status name)
      ((s.perform llvm e).generator.module.status name) := by
  obtain ⟨idle, settled, -⟩ := h.settled
  have lowered := (h.generate he).settled.settled.registry
  have performed : (s.perform llvm e).generator.module.Registry :=
    (reaches_perform h he).settled.settled.registry
  rw [← performed.status_lasting ordinary, lasting_perform h he, lowered.status_lasting ordinary]
  obtain ⟨fault, effect, accepted, -⟩ := settled.effect idle he
  exact accepted ▸ effect.status settled.registry ordinary

/-- A function with a body is shown as before. -/
theorem written_perform (llvm : Llvm) {F : Function} (found : s.generator.function? name = some F)
    (written : F.blocks ≠ []) :
    ∃ G, (s.perform llvm e).generator.function? name = some G ∧ G.fixNames = F.fixNames := by
  obtain ⟨idle, settled, -⟩ := h.settled
  have lowered := (h.generate he).settled.settled.registry
  have performed : (s.perform llvm e).generator.module.Registry :=
    (reaches_perform h he).settled.settled.registry
  obtain ⟨fault, effect, -, -⟩ := settled.effect idle he
  have lasts := performed.function?_lasting ordinary
  rw [lasting_perform h he, lowered.function?_lasting ordinary,
    effect.function?_of_written settled.registry ordinary found written] at lasts
  exact Option.map_eq_some_iff.mp lasts.symm

end

/-- What a round makes of the generator is what its statement does. -/
theorem generator_round? (h : round? llvm s f = some (t, g)) :
    t.generator = ((s.statement? f).map fun e => (s.perform llvm e).generator).getD s.generator := by
  rw [round?_eq] at h
  obtain ⟨⟨m, k⟩, move, same⟩ := Option.map_eq_some_iff.mp h
  cases same
  rw [statement?_eq, move, generator_report]
  cases m with
  | separator => exact generator_prompt s
  | statement e => rfl
  | refusal x => rfl

theorem status_round? (spelled : f.Spelled) (h : Reaches moduleName P s.generator)
    (round : round? llvm s f = some (t, g)) (ordinary : name ≠ anonymousName) :
    (s.generator.module.status name).Leads (t.generator.module.status name) := by
  rw [generator_round? round]
  cases found : s.statement? f with
  | none => exact .refl _
  | some e => exact (status_perform h (isStatement_of_statement? spelled found) ordinary llvm).leads

theorem written_round? (spelled : f.Spelled) (h : Reaches moduleName P s.generator)
    (round : round? llvm s f = some (t, g)) (ordinary : name ≠ anonymousName) {F : Function}
    (found : s.generator.function? name = some F) (written : F.blocks ≠ []) :
    ∃ G, t.generator.function? name = some G ∧ G.fixNames = F.fixNames := by
  rw [generator_round? round]
  cases statement : s.statement? f with
  | none => exact ⟨F, found, rfl⟩
  | some e =>
    have he := isStatement_of_statement? spelled statement
    exact written_perform h he ordinary llvm found written

/-! ### The definitions of a name -/

theorem filter_without (ordinary : name ≠ anonymousName) (P : Program) :
    (P.without anonymousName).filter (·.name = name) = P.filter (·.name = name) := by
  rw [Program.without, List.filter_filter]
  congr 1
  funext d
  by_cases here : d.name = name
  · simp [here, ordinary]
  · simp [here]

theorem filter_after (ordinary : name ≠ anonymousName) (P : Program) (k : Generator) (e : Expr) :
    (P.after k e).filter (·.name = name) =
      P.filter (·.name = name) ++
        if (k.generate e).1.isOk then (e.definition? name).toList else [] := by
  cases e with
  | function p body l =>
    have base : (if p.isAnonymous then P.without anonymousName else P).filter (·.name = name) =
        P.filter (·.name = name) := by
      split
      · exact filter_without ordinary P
      · rfl
    cases value : (k.generate (.function p body l)).1 with
    | error stop =>
      simp only [Program.after, value, base]
      exact (List.append_nil _).symm
    | ok v =>
      rw [after_of_generate value, List.filter_append, base]
      by_cases here : p.name = name <;> simp [here, Expr.definition?, Except.isOk, Except.toBool]
  | _ => simp [Program.after, Expr.definition?]

/-- The definitions of a name that a session has taken are the accepted ones. -/
theorem filter_definitions (ordinary : name ≠ anonymousName) (n : Nat) :
    (definitions options llvm f n).filter (·.name = name) =
      (accepted options llvm f n).filterMap (Expr.definition? name) := by
  induction n with
  | zero => rfl
  | succ n ih =>
    cases here : after options llvm f n with
    | none => simpa [definitions, accepted, here] using ih
    | some x =>
      obtain ⟨s, g⟩ := x
      rw [definitions, accepted_succ here, here, Option.bind_some]
      dsimp only
      cases s.statement? g with
      | none => simpa using ih
      | some e =>
        have taken : (s.taken (definitions options llvm f n) e).filter (·.name = name) =
            ((definitions options llvm f n).after s.generator e).filter (·.name = name) := by
          unfold taken
          split
          · exact filter_without ordinary _
          · rfl
        rw [Option.map_some, Option.getD_some, taken, filter_after ordinary, List.filterMap_append, ih,
          Option.filter_some]
        split
        · cases definition : e.definition? name <;> simp [definition]
        · simp

/-! ### Whole sessions -/

section
variable (spelled : f.Spelled) (h : after options llvm f n = some (s, g))
  (ordinary : name ≠ anonymousName)
include spelled h ordinary

/-- The register is what the accepted statements make of it. -/
theorem status_after :
    s.generator.module.status name = Status.ofAccepted name (accepted options llvm f n) := by
  induction n generalizing s g with
  | zero =>
    unfold after at h
    split at h
    · cases h
    · cases h
      rw [generator_prompt]
      rfl
  | succ n ih =>
    obtain ⟨⟨r, k⟩, before, round⟩ := Option.bind_eq_some_iff.mp h
    have held := ih before
    obtain ⟨spelled, reaches⟩ := after_reaches spelled before
    rw [generator_round? round, accepted_succ before]
    cases found : r.statement? k with
    | none =>
      rw [Option.filter_none, Option.toList_none, List.append_nil]
      exact held
    | some e =>
      have step := status_perform reaches (isStatement_of_statement? spelled found) ordinary llvm
      rw [Option.map_some, Option.getD_some, Option.filter_some]
      rw [held] at step
      split
      · rename_i accepted
        rw [accepted] at step
        exact step.ofAccepted
      · rename_i refused
        rw [eq_false_of_ne_true refused] at step
        rw [Option.toList_none, List.append_nil]
        exact step.eq_of_refused

/-- From any round on, the register moves forward, and bodies stay. -/
theorem forward_after {k : Nat} {u : Feed} (later : after options llvm f (n + k) = some (t, u)) :
    (s.generator.module.status name).Leads (t.generator.module.status name) ∧
      ∀ F, s.generator.function? name = some F → F.blocks ≠ [] →
        ∃ G, t.generator.function? name = some G ∧ G.fixNames = F.fixNames := by
  induction k generalizing t u with
  | zero =>
    cases h.symm.trans later
    exact ⟨.refl _, fun F found _ => ⟨F, found, rfl⟩⟩
  | succ k ih =>
    obtain ⟨⟨r, v⟩, before, round⟩ := Option.bind_eq_some_iff.mp later
    obtain ⟨leads, bodies⟩ := ih before
    obtain ⟨spelled, reaches⟩ := after_reaches spelled before
    refine ⟨leads.trans (status_round? spelled reaches round ordinary), fun F found written => ?_⟩
    obtain ⟨G, there, same⟩ := bodies F found written
    have body : G.blocks = F.blocks :=
      show G.fixNames.blocks = F.fixNames.blocks from congrArg Function.blocks same
    obtain ⟨H, there, same'⟩ := written_round? spelled reaches round ordinary there (body ▸ written)
    exact ⟨H, there, same'.trans same⟩

end

/-- **The register of functions only moves forward.** After any number of rounds, the
status of a name is the one that the accepted statements give to it, and a defined
function is the code of the first definition of it that was accepted. Later on the status
may be another one only by a declaration or a definition with as many parameters, and a
function with a body keeps its text. -/
theorem register_advances {file : String} {source : Source}
    (h : after options llvm (.ofSource file source) n = some (s, g))
    (ordinary : name ≠ anonymousName) :
    s.generator.module.status name =
        Status.ofAccepted name (accepted options llvm (.ofSource file source) n) ∧
      (∀ d, (accepted options llvm (.ofSource file source) n).findSome? (Expr.definition? name) =
        some d → ∃ F, s.generator.function? name = some F ∧
          Implements s.generator.module.arity? F d) ∧
      ∀ k t u, after options llvm (.ofSource file source) (n + k) = some (t, u) →
        (s.generator.module.status name).Leads (t.generator.module.status name) ∧
          ∀ F, s.generator.function? name = some F → F.blocks ≠ [] →
            ∃ G, t.generator.function? name = some G ∧ G.text = F.text ∧ G.params = F.params ∧
              G.blocks = F.blocks := by
  have spelled := Feed.spelled_ofSource file source
  refine ⟨status_after spelled h ordinary, fun d first => ?_, fun k t u later => ?_⟩
  · obtain ⟨-, reaches⟩ := after_reaches spelled h
    have taken : d ∈ (definitions options llvm (.ofSource file source) n).filter (·.name = name) := by
      rw [filter_definitions ordinary, List.mem_filterMap]
      exact List.exists_of_findSome?_eq_some first
    obtain ⟨mem, same⟩ := List.mem_filter.mp taken
    obtain ⟨F, found, implements⟩ := reaches.settled.settled.defined d mem
    exact ⟨F, of_decide_eq_true same ▸ found, implements⟩
  · obtain ⟨leads, bodies⟩ := forward_after spelled h ordinary later
    refine ⟨leads, fun F found written => ?_⟩
    obtain ⟨G, there, same⟩ := bodies F found written
    refine ⟨G, there, ?_, ?_, ?_⟩
    · rw [← G.text_fixNames, same, F.text_fixNames]
    · exact show G.fixNames.params = F.fixNames.params from congrArg Function.params same
    · exact show G.fixNames.blocks = F.fixNames.blocks from congrArg Function.blocks same

/-- A declaration that a definition has completed, and a second definition, which is
refused. -/
theorem register_advances_to_defined : ∃ s g F d,
    after {} .standard (.ofSource "<stdin>" (.ofString "extern f(a);def f(b) b;def f(c) 1;")) 6 =
        some (s, g) ∧
      s.generator.module.status "f" = .defined 1 ∧ s.generator.function? "f" = some F ∧
      Implements s.generator.module.arity? F d ∧ d.params = ["b"] := by
  let f := Feed.ofSource "<stdin>" (.ofString "extern f(a);def f(b) b;def f(c) 1;")
  have runs : (after {} .standard f 6).isSome = true := by decide +kernel
  have first : (((accepted {} .standard f 6).findSome? (Expr.definition? "f")).map (·.params)) =
      some ["b"] := by decide +kernel
  obtain ⟨⟨s, g⟩, here⟩ := Option.isSome_iff_exists.mp runs
  obtain ⟨d, found, params⟩ := Option.map_eq_some_iff.mp first
  obtain ⟨status, bodies, -⟩ := register_advances here (by decide : "f" ≠ anonymousName)
  obtain ⟨F, there, implements⟩ := bodies d found
  have defined : Status.ofAccepted "f" (accepted {} .standard f 6) = .defined 1 := by
    rw [Status.ofAccepted, found]
    exact congrArg (fun l : List String => Status.defined l.length) params
  exact ⟨s, g, F, d, here, status.trans defined, there, implements, params⟩

end

end Reckoner.Session

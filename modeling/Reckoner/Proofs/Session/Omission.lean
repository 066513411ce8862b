import Reckoner.Proofs.Lowering.Faults
import Reckoner.Proofs.Session.BareExpressions
import Reckoner.Proofs.Session.Constructs
import Reckoner.Proofs.Session.Values

/-! Statements that are refused make no difference.

Two sessions that have taken the same definitions and know the same of each name are
akin (`Akin`), however they differ in the names of parameters and results. A statement
then fares alike in both (`Akin.fares`): it is accepted in both or refused in both for
the same fault, and if it is run in both, the runs come to the same. Afterwards the
sessions are akin again (`Akin.perform`), and they still are if a statement is refused in
the one that the other never sees (`Akin.omit`). So any of the refused statements of a
session can be left out of it (`omit_refused`). -/
namespace Reckoner.Session
open IR Lowering

/-- The statements of a list that are not marked. -/
def unmarked (es : List (Expr × Bool)) : List Expr :=
  (es.filter fun x => !x.2).map Prod.fst

/-- Each statement that is marked is refused when its turn comes. -/
def marksRefused (llvm : Llvm) (s : Session) : List (Expr × Bool) → Bool
  | [] => true
  | x :: rest =>
    (!x.2 || !(s.generator.generate x.1).1.isOk) && marksRefused llvm (s.perform llvm x.1) rest

/-- Two runs come to the same: in any process the code of both has the same result or has
none, and where code is executed as a machine does it in some process, a run of the one gives
the result that a run of the other gives. -/
structure RunAlike (m k : Module) : Prop where
  comes : ∀ proc, m.result? proc anonymousName = k.result? proc anonymousName
  results : ∀ (llvm : Llvm) level proc, llvm.Executes level proc m anonymousName →
    llvm.Executes level proc k anonymousName → (m.result? proc anonymousName).isSome = true →
      ∀ before after a b, Evaluation.run llvm before level m anonymousName = .ok a →
        Evaluation.run llvm after level k anonymousName = .ok b → a = b

/-- A statement fares in two sessions alike. -/
structure FaresAlike (s t : Session) (e : Expr) : Prop where
  accepted : (s.generator.generate e).1.isOk = (t.generator.generate e).1.isOk
  faults : newFaults s.generator e = newFaults t.generator e
  runs : (s.runOf? e).isSome = (t.runOf? e).isSome
  alike : ∀ m k, s.runOf? e = some m → t.runOf? e = some k → RunAlike m k

/-- Two sessions have taken the same definitions and know the same of each name. -/
structure Akin (moduleName : String) (P : Program) (s t : Session) : Prop where
  left : Reaches moduleName P s.generator
  right : Reaches moduleName P t.generator
  ordinary : ∀ d ∈ P, d.name ≠ anonymousName
  status : ∀ name, s.generator.module.status name = t.generator.module.status name

section
variable {moduleName : String} {P : Program} {llvm : Llvm} {s t : Session} {e : Expr} {m k : Module}

/-! ### What a session takes -/

/-- A bare expression is going to be evaluated if it is accepted. -/
theorem isSome_begun?_anonymous (s : Session) (body : Expr) :
    (s.begun? (.anonymous body)).isSome = (s.generator.generate (.anonymous body)).1.isOk := by
  have value : ((s.showParse "Parsed a top-level expression" body).lower (.anonymous body)).1 =
      (s.generator.generate (.anonymous body)).1.toOption := by
    rw [lower, generator_showParse]
  simp only [begun?, Expr.anonymous, Prototype.isAnonymous, decide_true, if_true] at value ⊢
  generalize (s.showParse "Parsed a top-level expression" body).lower _ = result at value ⊢
  obtain ⟨_, u⟩ := result
  dsimp only at value
  rw [value]
  cases (s.generator.generate _).1 <;> rfl

theorem begun?_of_ordinary {p : Prototype} {body : Expr} {l : Option Location}
    (ordinary : p.name ≠ anonymousName) : s.begun? (.function p body l) = none := by
  have named : p.isAnonymous = false := decide_eq_false ordinary
  rw [begun?, named, if_neg Bool.false_ne_true]

theorem isSome_begun?_congr (he : e.IsStatement)
    (same : (s.generator.generate e).1.isOk = (t.generator.generate e).1.isOk) :
    (s.begun? e).isSome = (t.begun? e).isSome := by
  cases he with
  | declaration _ => rfl
  | definition signature _ =>
    rw [begun?_of_ordinary signature.name.ne_anonymous, begun?_of_ordinary signature.name.ne_anonymous]
  | bare _ => rw [isSome_begun?_anonymous, isSome_begun?_anonymous, same]

theorem after_congr {g k : Generator} (same : (g.generate e).1.isOk = (k.generate e).1.isOk)
    (P : Program) : P.after g e = P.after k e := by
  cases e with
  | function p body l =>
    unfold Program.after
    dsimp only
    cases here : (g.generate (.function p body l)).1 with
    | ok v =>
      cases there : (k.generate (.function p body l)).1 with
      | ok w => rfl
      | error stop =>
        rw [here, there] at same
        cases same
    | error stop =>
      cases there : (k.generate (.function p body l)).1 with
      | ok w =>
        rw [here, there] at same
        cases same
      | error stop => rfl
  | _ => rfl

theorem without_of_ordinary (ordinary : ∀ d ∈ P, d.name ≠ anonymousName) :
    P.without anonymousName = P :=
  List.filter_eq_self.mpr fun d hd => decide_eq_true (ordinary d hd)

/-- Nothing is taken from a statement that is refused. -/
theorem taken_of_refused (he : e.IsStatement) (ordinary : ∀ d ∈ P, d.name ≠ anonymousName)
    (refused : (s.generator.generate e).1.isOk = false) : s.taken P e = P := by
  have function {p : Prototype} {body : Expr} {l : Option Location}
      (refused : (s.generator.generate (.function p body l)).1.isOk = false) :
      P.after s.generator (.function p body l) = P := by
    unfold Program.after
    dsimp only
    cases here : (s.generator.generate (.function p body l)).1 with
    | ok v =>
      rw [here] at refused
      cases refused
    | error stop => rw [without_of_ordinary ordinary, ite_self]
  unfold taken
  cases he with
  | declaration _ => rfl
  | definition signature _ =>
    rw [begun?_of_ordinary signature.name.ne_anonymous, Option.isSome_none, if_neg Bool.false_ne_true]
    exact function refused
  | bare _ =>
    rw [isSome_begun?_anonymous, refused, if_neg Bool.false_ne_true]
    exact function refused

theorem status_anonymous (settled : Settled P m) (ordinary : ∀ d ∈ P, d.name ≠ anonymousName) :
    m.status anonymousName = .absent := by
  rw [Module.status, function?_of_ordinary settled ordinary]
  rfl

/-! ### Akin sessions -/

/-- All names are known alike if all but that of bare expressions are. -/
theorem akin_of_status (left : Reaches moduleName P s.generator)
    (right : Reaches moduleName P t.generator) (ordinary : ∀ d ∈ P, d.name ≠ anonymousName)
    (status : ∀ name, name ≠ anonymousName →
      s.generator.module.status name = t.generator.module.status name) :
    Akin moduleName P s t := by
  refine ⟨left, right, ordinary, fun name => ?_⟩
  by_cases anonymous : name = anonymousName
  · rw [anonymous, status_anonymous left.settled.settled ordinary,
      status_anonymous right.settled.settled ordinary]
  · exact status name anonymous

section
variable (akin : Akin moduleName P s t) (he : e.IsStatement)
include akin he

theorem Akin.isOk : (s.generator.generate e).1.isOk = (t.generator.generate e).1.isOk := by
  obtain ⟨idle, settled, -⟩ := akin.left.settled
  obtain ⟨idle', settled', -⟩ := akin.right.settled
  rw [(settled.finds idle he).1, (settled'.finds idle' he).1, funext akin.status]

theorem Akin.newFaults : newFaults s.generator e = Session.newFaults t.generator e := by
  obtain ⟨idle, settled, -⟩ := akin.left.settled
  obtain ⟨idle', settled', -⟩ := akin.right.settled
  unfold Session.newFaults
  rw [(settled.finds idle he).2, (settled'.finds idle' he).2, ← Array.length_toList,
    ← Array.length_toList, List.drop_left, List.drop_left, funext akin.status]

/-- A statement carried out in both of two sessions leaves them akin. -/
theorem Akin.perform (llvm : Llvm) :
    Akin moduleName (s.taken P e) (s.perform llvm e) (t.perform llvm e) := by
  have taken : t.taken P e = s.taken P e := by
    unfold Session.taken
    rw [isSome_begun?_congr he (akin.isOk he), after_congr (akin.isOk he)]
  refine akin_of_status (reaches_perform akin.left he) (taken ▸ reaches_perform akin.right he)
    (taken_ordinary he akin.ordinary) fun name ordinary => ?_
  rw [(status_perform akin.left he ordinary llvm).eq, (status_perform akin.right he ordinary llvm).eq,
    akin.isOk he, akin.status]

/-- So does a statement that is refused in one of them and left out in the other. -/
theorem Akin.omit (llvm : Llvm) (refused : (s.generator.generate e).1.isOk = false) :
    Akin moduleName P (s.perform llvm e) t := by
  have reaches : Reaches moduleName (s.taken P e) (s.perform llvm e).generator :=
    reaches_perform akin.left he
  rw [taken_of_refused he akin.ordinary refused] at reaches
  refine akin_of_status reaches akin.right akin.ordinary fun name ordinary => ?_
  have step := status_perform akin.left he ordinary llvm
  rw [refused] at step
  rw [step.eq_of_refused, akin.status]

end

/-! ### Runs of akin sessions -/

/-- Code that comes to the same in any process is run alike. -/
theorem runAlike_of_comes
    (comes : ∀ proc, m.result? proc anonymousName = k.result? proc anonymousName) : RunAlike m k where
  comes := comes
  results llvm level proc executes executes' ends before after a b ran ran' := by
    obtain ⟨r, result⟩ := Option.isSome_iff_exists.mp ends
    rw [Evaluation.eq_of_run executes result ran,
      Evaluation.eq_of_run executes' (comes proc ▸ result) ran']

theorem Akin.runAlike (akin : Akin moduleName P s t) (he : e.IsStatement)
    (left : s.runOf? e = some m) (right : t.runOf? e = some k) : RunAlike m k := by
  obtain ⟨u, begun, rfl⟩ := Option.map_eq_some_iff.mp left
  obtain ⟨v, begun', rfl⟩ := Option.map_eq_some_iff.mp right
  obtain ⟨body, rfl, term⟩ := anonymous_of_begun? he begun
  refine runAlike_of_comes fun proc => Option.ext fun r => ?_
  exact (result?_iff_evaluates akin.left term begun proc r.value r.output).trans
    (result?_iff_evaluates akin.right term begun' proc r.value r.output).symm

/-- **A statement fares alike in akin sessions.** -/
theorem Akin.fares (akin : Akin moduleName P s t) (he : e.IsStatement) : FaresAlike s t e where
  accepted := akin.isOk he
  faults := akin.newFaults he
  runs := by
    rw [runOf?, runOf?, Option.isSome_map, Option.isSome_map]
    exact isSome_begun?_congr he (akin.isOk he)
  alike := fun _ _ => akin.runAlike he

/-! ### Leaving out statements -/

/-- A list of statements, and what is left of it, lead akin sessions to akin sessions. -/
theorem Akin.performAll (akin : Akin moduleName P s t) {es : List (Expr × Bool)}
    (statements : ∀ x ∈ es, x.1.IsStatement) (refused : marksRefused llvm s es = true) :
    ∃ Q, Akin moduleName Q (s.performAll llvm (es.map Prod.fst)) (t.performAll llvm (unmarked es)) := by
  induction es generalizing P s t with
  | nil => exact ⟨P, akin⟩
  | cons x rest ih =>
    obtain ⟨e, marked⟩ := x
    obtain ⟨here, later⟩ := Bool.and_eq_true_iff.mp refused
    obtain ⟨he, others⟩ := List.forall_mem_cons.mp statements
    cases marked with
    | true =>
      have refused : (s.generator.generate e).1.isOk = false := by simpa using here
      exact ih (akin.omit he llvm refused) others later
    | false => exact ih (akin.perform he llvm) others later

theorem marksRefused_append (llvm : Llvm) (s : Session) (es fs : List (Expr × Bool)) :
    marksRefused llvm s (es ++ fs) =
      (marksRefused llvm s es && marksRefused llvm (s.performAll llvm (es.map Prod.fst)) fs) := by
  induction es generalizing s with
  | nil => rfl
  | cons x rest ih =>
    rw [List.cons_append, marksRefused, ih, marksRefused, Bool.and_assoc]
    rfl

theorem akin_ofOptions (options : Options) :
    Akin options.moduleName [] (ofOptions options) (ofOptions options) :=
  ⟨.start, .start, List.forall_mem_nil _, fun _ => rfl⟩

/-- The call of `f` with two. -/
def callOfTwo : Expr :=
  .anonymous (.call "f" [.number (2.0 : Float) none] none)

/-- A declaration, its definition and a call. In between stand two definitions that are
refused, one of them because of a variable; the declaration keeps the name that this one
has given to its parameter. -/
def interspersed : List (Expr × Bool) :=
  [(.prototype ⟨"f", ["a"], none⟩, false),
    (.function ⟨"f", ["b"], none⟩ (.var "c" none) none, true),
    (.function ⟨"f", ["a"], none⟩
      (.binary "+" (.var "a" none) (.number (1.0 : Float) none) none) none, false),
    (.function ⟨"f", ["b"], none⟩ (.var "b" none) none, true),
    (callOfTwo, false)]

/-- **Statements that are refused make no difference.** If some of those that a session
refuses are left out of it, then it knows the same of each name at the end, and each
statement that is left fares as it did: it is accepted as before or refused for the same
fault, and a run that both sessions execute comes to the same value and text. -/
theorem omit_refused (options : Options) (llvm : Llvm) {es : List (Expr × Bool)}
    (statements : ∀ x ∈ es, x.1.IsStatement)
    (refused : marksRefused llvm (ofOptions options) es = true) :
    (∀ name,
      ((ofOptions options).performAll llvm (es.map Prod.fst)).generator.module.status name =
        ((ofOptions options).performAll llvm (unmarked es)).generator.module.status name) ∧
      ∀ before e after, es = before ++ (e, false) :: after →
        FaresAlike ((ofOptions options).performAll llvm (before.map Prod.fst))
          ((ofOptions options).performAll llvm (unmarked before)) e := by
  refine ⟨?_, ?_⟩
  · obtain ⟨Q, akin⟩ := (akin_ofOptions options).performAll statements refused
    exact akin.status
  · rintro before e after rfl
    rw [marksRefused_append] at refused
    obtain ⟨earlier, -⟩ := Bool.and_eq_true_iff.mp refused
    obtain ⟨first, others⟩ := List.forall_mem_append.mp statements
    obtain ⟨Q, akin⟩ := (akin_ofOptions options).performAll first earlier
    exact akin.fares (others _ List.mem_cons_self)

/-- The modules that are run differ in the names of parameters, and come to the same. -/
theorem omit_refused_of_renamed :
    marksRefused .standard (ofOptions {}) interspersed = true ∧
      ((ofOptions {}).performAll .standard (interspersed.map Prod.fst)).generator.module.status "f" =
        ((ofOptions {}).performAll .standard (unmarked interspersed)).generator.module.status "f" ∧
      ∃ m k,
        ((ofOptions {}).performAll .standard ((interspersed.take 4).map Prod.fst)).runOf? callOfTwo =
            some m ∧
          ((ofOptions {}).performAll .standard (unmarked (interspersed.take 4))).runOf? callOfTwo =
            some k ∧
          m.text ≠ k.text ∧ RunAlike m k := by
  have statements : ∀ x ∈ interspersed, x.1.IsStatement := by
    have known (name : String) (h : IsIdentifier name) : (Expr.var name none).IsTerm := h
    refine List.forall_mem_cons.mpr ⟨.declaration (by decide), List.forall_mem_cons.mpr ⟨?_, ?_⟩⟩
    · exact .definition (by decide) (known "c" (by decide))
    refine List.forall_mem_cons.mpr ⟨?_, List.forall_mem_cons.mpr ⟨?_, ?_⟩⟩
    · exact .definition (by decide) ⟨known "a" (by decide), trivial⟩
    · exact .definition (by decide) (known "b" (by decide))
    · exact List.forall_mem_singleton.mpr (.bare ⟨by decide, trivial, trivial⟩)
  have refused : marksRefused .standard (ofOptions {}) interspersed = true := by decide +kernel
  have differ :
      ((((ofOptions {}).performAll .standard ((interspersed.take 4).map Prod.fst)).runOf?
          callOfTwo).bind fun m =>
        (((ofOptions {}).performAll .standard (unmarked (interspersed.take 4))).runOf? callOfTwo).map
          fun k => decide (m.text ≠ k.text)) = some true := by decide +kernel
  obtain ⟨m, left, rest⟩ := Option.bind_eq_some_iff.mp differ
  obtain ⟨k, right, texts⟩ := Option.map_eq_some_iff.mp rest
  obtain ⟨register, fares⟩ := omit_refused {} .standard statements refused
  exact ⟨refused, register "f", m, k, left, right, of_decide_eq_true texts,
    (fares (interspersed.take 4) callOfTwo [] rfl).alike m k left right⟩

end

end Reckoner.Session

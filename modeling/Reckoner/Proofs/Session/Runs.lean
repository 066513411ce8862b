import Reckoner.Proofs.Evaluation.Safety
import Reckoner.Proofs.Session

/-! The modules of a session, and their runs.

Between any two rounds of a session the module is valid, and so is one that is about to
be run. A run is refused for two reasons only: a local name of more than 1024 bytes, or
a call that cannot be resolved. One that starts never gets stuck, if host functions are
declared with the one argument that they take, unless a call leads to a function that is
found in the process only. -/
namespace Reckoner.Session
open IR Lowering

section
variable {options : Options} {llvm : Llvm} {n : Nat} {s : Session} {f g : Feed} {m : Module}

/-- A bare expression that is going to be evaluated has been taken as a definition. -/
theorem after_begun? {P : Program} {body : Expr} {t : Session}
    (begun : s.begun? (.anonymous body) = some t) :
    P.after s.generator (.anonymous body) =
      P.without anonymousName ++ [⟨anonymousName, [], body⟩] := by
  simp only [begun?, Expr.anonymous, Prototype.isAnonymous, decide_true, if_true] at begun
  split at begun
  · cases begun
  · rename_i v t run
    have value := congrArg Prod.fst run
    simp only [lower, generator_showParse] at value
    cases generated : (s.generator.generate (.anonymous body)).1 with
    | error stop =>
      rw [Expr.anonymous] at generated
      rw [generated] at value
      cases value
    | ok v => exact after_of_generate generated

/-- Only a bare expression is evaluated. -/
theorem anonymous_of_begun? {e : Expr} {t : Session} (he : e.IsStatement)
    (begun : s.begun? e = some t) : ∃ body, e = .anonymous body ∧ body.IsTerm := by
  cases he with
  | declaration _ => cases begun
  | definition signature _ =>
    have named := decide_eq_false signature.name.ne_anonymous
    simp [begun?, Prototype.isAnonymous, named] at begun
  | @bare body term => exact ⟨body, rfl, term⟩

/-- What is run next is the module of a bare expression that has been accepted. -/
theorem reaches_nextRun? {P : Program} (spelled : f.Spelled)
    (h : Reaches options.moduleName P s.generator) (next : s.nextRun? f = some m) :
    ∃ (body : Expr) (t : Session), body.IsTerm ∧ m = t.generator.printed.module ∧
      Reaches options.moduleName (P.without anonymousName ++ [⟨anonymousName, [], body⟩])
        t.generator := by
  obtain ⟨t, evaluated, rfl⟩ := Option.map_eq_some_iff.mp next
  obtain ⟨e, found, begun⟩ := Option.bind_eq_some_iff.mp evaluated
  have he := isStatement_of_statement? spelled found
  obtain ⟨body, rfl, term⟩ := anonymous_of_begun? he begun
  have reaches := reaches_begun? h he begun
  rw [after_begun? begun] at reaches
  exact ⟨body, t, term, rfl, reaches⟩

/-- What is run next is settled, with the bare expression among its definitions. -/
theorem settled_nextRun? {P : Program} (spelled : f.Spelled)
    (h : Reaches options.moduleName P s.generator) (next : s.nextRun? f = some m) :
    ∃ Q body, Settled Q m ∧ m.name = options.moduleName ∧ ⟨anonymousName, [], body⟩ ∈ Q := by
  obtain ⟨body, t, -, rfl, reaches⟩ := reaches_nextRun? spelled h next
  obtain ⟨-, settled, name⟩ := reaches.print.settled
  exact ⟨_, body, settled, name, List.mem_append_right _ List.mem_cons_self⟩

/-- A session leaves a valid module. -/
theorem run_valid (options : Options) (llvm : Llvm) (file : String) (source : Source) :
    (run options llvm (.ofSource file source)).session.generator.module.Valid := by
  obtain ⟨P, reaches⟩ := reaches_run options llvm (Feed.spelled_ofSource file source)
  exact reaches.settled.settled.valid

/-- **Modules of a session are valid** between any two rounds and before each run. With a
reader, a run is refused for calls that cannot be resolved or for a local name that is too
long only, so the function of a bare expression is always found; and it is refused if a
parameter has a name that is too long. -/
theorem after_valid (file : String) (source : Source)
    (h : after options llvm (.ofSource file source) n = some (s, g)) :
    s.generator.module.Valid ∧
      ∀ m, s.nextRun? g = some m → m.Valid ∧
        (llvm.IsReader → IsModest options.moduleName →
          (∀ fault, Evaluation.run llvm s.started s.options.level m anonymousName = .error fault →
            (∃ names, fault = .unresolved names) ∨
              (∃ text, fault = .invalidModule options.moduleName text) ∧ ¬m.IsShort) ∧
          (m.HasLongParam →
            ∃ text, Evaluation.run llvm s.started s.options.level m anonymousName =
              .error (.invalidModule options.moduleName text))) := by
  obtain ⟨spelled, reaches⟩ := after_reaches (Feed.spelled_ofSource file source) h
  refine ⟨reaches.settled.settled.valid, fun m next => ?_⟩
  obtain ⟨Q, body, settled, name, bare⟩ := settled_nextRun? spelled reaches next
  refine ⟨settled.valid, fun reader modest => ?_⟩
  rw [← name] at modest ⊢
  exact settled.run_fault modest bare reader s.started s.options.level

/-- A session about to run its first expression, which is not refused for its text. -/
theorem valid_of_one : ∃ s g m,
    after {} .standard (.ofSource "<stdin>" (.ofString "1;")) 0 = some (s, g) ∧
      s.generator.module.Valid ∧ s.nextRun? g = some m ∧ m.Valid ∧ m.IsShort ∧
      ∀ text, Evaluation.run .standard s.started s.options.level m anonymousName ≠
        .error (.invalidModule "kaleidoscope" text) := by
  have runs : ((after {} .standard (.ofSource "<stdin>" (.ofString "1;")) 0).bind fun x =>
      x.1.nextRun? x.2).any (fun m => decide m.IsShort) = true := by decide +kernel
  obtain ⟨m, next, short⟩ := (Option.any_eq_true _ _).mp runs
  obtain ⟨⟨s, g⟩, here, next⟩ := Option.bind_eq_some_iff.mp next
  obtain ⟨valid, run⟩ := after_valid "<stdin>" (.ofString "1;") here
  obtain ⟨valid', faults⟩ := run m next
  have short := of_decide_eq_true short
  refine ⟨s, g, m, here, valid, next, valid', short, fun text refused => ?_⟩
  rcases (faults Llvm.isReader_ofFinish (by decide +kernel)).1 _ refused with ⟨names, other⟩ | ⟨-, long⟩
  · cases other
  · exact long short

/-- A declaration with a parameter of 1025 letters, and a bare expression. -/
def longSource : Source :=
  .ofList ("extern f(".toList ++ List.replicate 1025 'a' ++ ");1;".toList)

/-- Behind a declaration with a long parameter no reader can read the module of `1`. -/
theorem after_refused : ∃ s g m,
    after {} .standard (.ofSource "<stdin>" longSource) 2 = some (s, g) ∧ s.nextRun? g = some m ∧
      ∀ llvm : Llvm, llvm.IsReader → ∀ started level, ∃ text,
        Evaluation.run llvm started level m anonymousName =
          .error (.invalidModule "kaleidoscope" text) := by
  have runs : ((after {} .standard (.ofSource "<stdin>" longSource) 2).bind fun x =>
      x.1.nextRun? x.2).any (fun m => decide m.HasLongParam) = true := by decide +kernel
  obtain ⟨m, next, long⟩ := (Option.any_eq_true _ _).mp runs
  obtain ⟨⟨s, g⟩, here, next⟩ := Option.bind_eq_some_iff.mp next
  obtain ⟨spelled, reaches⟩ := after_reaches (Feed.spelled_ofSource _ _) here
  obtain ⟨Q, body, settled, name, bare⟩ := settled_nextRun? spelled reaches next
  refine ⟨s, g, m, here, next, fun llvm reader started level => ?_⟩
  have modest : IsModest m.name := name ▸ by decide +kernel
  have refused := (settled.run_fault modest bare reader started level).2 (of_decide_eq_true long)
  rwa [name] at refused

/-- **Runs never go wrong**, for as long as they take. If no call is unresolved, by the names
that the module has, and host functions are declared with one argument, each machine that
comes up has what its next step needs: operands have been computed in the activation that
reads them, a call goes to a function with a body, to a host function or to one that has a
symbol in the process, a phi has an operand for the block that control came from, and a block
ends in a terminator that can be followed. So a machine can get stuck only at the call of a
function that is neither in the module nor in the host, and never if only host functions have
symbols. -/
theorem after_never_stuck {file : String} {source : Source}
    (h : after options llvm (.ofSource file source) n = some (s, g)) (next : s.nextRun? g = some m)
    (shows : llvm.Shows s.options.level m)
    (resolved : Evaluation.unresolved llvm s.started s.options.level m = .ok []) (fit : HostsFit m) :
    ∃ M, (m.function? anonymousName).bind (Machine.ofFunction? m) = some M ∧
      (∀ proc j N, Machine.Steps proc j M N →
        N.running.Ready N.module (fun name => llvm.hasSymbol s.started name = true) ∧
          (N.step proc = .stuck → N.Astray proc fun name => llvm.hasSymbol s.started name = true)) ∧
      ((∀ name, llvm.hasSymbol s.started name = true → (Host.ofName? name).isSome = true) →
        ∀ proc j N, Machine.Steps proc j M N → N.step proc ≠ .stuck) := by
  obtain ⟨spelled, reaches⟩ := after_reaches (Feed.spelled_ofSource file source) h
  obtain ⟨Q, body, settled, -, bare⟩ := settled_nextRun? spelled reaches next
  unfold Evaluation.unresolved at resolved
  cases compiled : Evaluation.compile llvm s.options.level m with
  | error fault =>
    rw [compiled] at resolved
    cases resolved
  | ok held =>
    have resolved : (llvm.listing held).unresolved (llvm.hasSymbol s.started) = [] := by
      rw [compiled] at resolved
      exact Except.ok.inj resolved
    rw [shows held compiled] at resolved
    have runs := settled.runnable resolved fit
    obtain ⟨M, starts, rfl, sound⟩ := settled.sound_start bare
    have safe {proc : Process} {j : Nat} {N : Machine} (steps : Machine.Steps proc j M N) :=
      sound.never_stuck runs steps
    refine ⟨M, starts, fun proc j N => safe, fun hosts proc j N steps stuck => ?_⟩
    obtain ⟨n, callee, args, rest, g, ds, -, -, -, none, known, -⟩ := ((safe steps).2 stuck).call
    have host := hosts callee known
    rw [none] at host
    cases host

/-- A recursive function that calls a host function at last, where only host functions have
symbols. -/
theorem never_stuck_of_recursion :
    let llvm := Llvm.ofFinish (fun _ => hostSymbols) (Machine.finish .standard)
    ∃ s g m M,
      after {} llvm (.ofSource "<stdin>" (.ofString
        "extern putchard(c);def f(x) if x<1 then putchard(65) else f(x-1);f(1);")) 4 = some (s, g) ∧
      s.nextRun? g = some m ∧ Evaluation.unresolved llvm s.started s.options.level m = .ok [] ∧
      (m.function? anonymousName).bind (Machine.ofFunction? m) = some M ∧
      ∀ proc j N, Machine.Steps proc j M N → N.step proc ≠ .stuck := by
  intro llvm
  have runs : (after {} llvm (.ofSource "<stdin>" (.ofString
      "extern putchard(c);def f(x) if x<1 then putchard(65) else f(x-1);f(1);")) 4).any (fun x =>
        (x.1.nextRun? x.2).any fun m => decide (HostsFit m) &&
          decide ((Evaluation.unresolved llvm x.1.started x.1.options.level m).toOption =
            some [])) = true := by
    decide +kernel
  obtain ⟨⟨s, g⟩, here, runs⟩ := (Option.any_eq_true _ _).mp runs
  obtain ⟨m, next, runs⟩ := (Option.any_eq_true _ _).mp runs
  obtain ⟨fit, resolved⟩ := Bool.and_eq_true_iff.mp runs
  have resolved : Evaluation.unresolved llvm s.started s.options.level m = .ok [] := by
    have resolved := of_decide_eq_true resolved
    cases names : Evaluation.unresolved llvm s.started s.options.level m with
    | error fault =>
      rw [names] at resolved
      cases resolved
    | ok names' =>
      rw [names] at resolved
      rw [Option.some.inj resolved]
  obtain ⟨spelled, reaches⟩ := after_reaches (Feed.spelled_ofSource _ _) here
  obtain ⟨Q, body, settled, name, -⟩ := settled_nextRun? spelled reaches next
  have legible := settled.legible (name ▸ by decide +kernel)
  obtain ⟨M, starts, -, safe⟩ := after_never_stuck here next
    (Llvm.shows_ofFinish settled.valid legible _) resolved (of_decide_eq_true fit)
  exact ⟨s, g, m, M, here, next, resolved, starts, safe fun _ known => known⟩

end

end Reckoner.Session

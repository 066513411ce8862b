import Reckoner.Proofs.Session.Moves

/-! What a session does with its constructs.

Separators, statements that are given up and everything that is written make no difference
to the module of a session, nor to its results. Sessions that differ in nothing else agree
(`Agrees`), and they still do once both have carried out a statement (`Agrees.perform`). So
a session leaves the module and the results of its constructs, carried out one after the
other and nothing besides (`run_performs`), also if a fault of the source ends it. -/
namespace Reckoner.Session
open Lowering

/-- The session once a number of statements have been carried out. -/
def performAll (llvm : Llvm) (s : Session) (es : List Expr) : Session :=
  es.foldl (fun s e => s.perform llvm e) s

/-- Sessions with the same settings, the same module and the same results, whatever they
have written. -/
structure Agrees (s t : Session) : Prop where
  options : t.options = s.options
  generator : t.generator = s.generator
  results : t.results = s.results
  started : t.started = s.started

variable {llvm : Llvm} {s t u : Session} {f g : Feed}

theorem performAll_append (llvm : Llvm) (s : Session) (es ds : List Expr) :
    s.performAll llvm (es ++ ds) = (s.performAll llvm es).performAll llvm ds :=
  List.foldl_append

namespace Agrees

theorem refl (s : Session) : Agrees s s :=
  ⟨rfl, rfl, rfl, rfl⟩

theorem trans (first : Agrees s t) (second : Agrees t u) : Agrees s u :=
  ⟨second.options.trans first.options, second.generator.trans first.generator,
    second.results.trans first.results, second.started.trans first.started⟩

/-! ### What is only written -/

theorem prompt (s : Session) : Agrees s s.prompt := by
  unfold Session.prompt
  split <;> exact ⟨rfl, rfl, rfl, rfl⟩

theorem report (s : Session) (faults : Array Token.Fault) : Agrees s (s.report faults) :=
  ⟨rfl, rfl, rfl, rfl⟩

theorem refuse (s : Session) (x : Expr.Fault) : Agrees s (s.refuse x) :=
  ⟨rfl, rfl, rfl, rfl⟩

theorem halt (s : Session) (fault : Token.Fault) (f : Feed) : Agrees s (s.halt fault f).session :=
  ⟨rfl, rfl, rfl, rfl⟩

/-! ### Statements -/

theorem showParse (h : Agrees s t) (what : String) (e : Expr) :
    Agrees (s.showParse what e) (t.showParse what e) := by
  unfold Session.showParse
  rw [h.options]
  split
  · exact ⟨h.options, h.generator, h.results, h.started⟩
  · exact h

theorem lower (h : Agrees s t) (e : Expr) :
    (t.lower e).1 = (s.lower e).1 ∧ Agrees (s.lower e).2 (t.lower e).2 := by
  unfold Session.lower
  rw [h.generator]
  exact ⟨rfl, h.options, rfl, h.results, h.started⟩

theorem showIR (h : Agrees s t) (what name : String) :
    Agrees (s.showIR what name) (t.showIR what name) := by
  unfold Session.showIR
  rw [h.options, h.generator]
  split
  · split
    · exact ⟨rfl, rfl, h.results, h.started⟩
    · exact h
  · exact h

theorem evaluate (h : Agrees s t) (llvm : Llvm) : Agrees (s.evaluate llvm) (t.evaluate llvm) := by
  unfold Session.evaluate
  rw [h.options, h.generator, h.started, h.results]
  dsimp only
  split
  · exact ⟨rfl, rfl, rfl, rfl⟩
  · split <;> exact ⟨rfl, rfl, rfl, rfl⟩

theorem extend (h : Agrees s t) (parsed lowered name : String) (e : Expr) :
    Agrees (s.extend parsed lowered name e) (t.extend parsed lowered name e) := by
  obtain ⟨value, next⟩ := (h.showParse parsed e).lower e
  unfold Session.extend
  generalize (s.showParse parsed e).lower e = x at value next ⊢
  generalize (t.showParse parsed e).lower e = y at value next ⊢
  obtain ⟨v, s⟩ := x
  obtain ⟨w, t⟩ := y
  cases value
  cases v with
  | none => exact next
  | some v => exact next.showIR lowered name

/-- **Sessions that agree do so behind a statement.** -/
theorem perform (h : Agrees s t) (llvm : Llvm) (e : Expr) :
    Agrees (s.perform llvm e) (t.perform llvm e) := by
  unfold Session.perform
  split
  · exact h.extend _ _ _ _
  · rename_i p body l
    split
    · obtain ⟨value, next⟩ :=
        (h.showParse "Parsed a top-level expression" body).lower (.function p body l)
      generalize (s.showParse _ body).lower (.function p body l) = x at value next ⊢
      generalize (t.showParse _ body).lower (.function p body l) = y at value next ⊢
      obtain ⟨v, s⟩ := x
      obtain ⟨w, t⟩ := y
      cases value
      cases v with
      | none => exact next
      | some v => exact (next.showIR _ _).evaluate llvm
    · exact h.extend _ _ _ _
  · exact h

theorem performAll (h : Agrees s t) (llvm : Llvm) (es : List Expr) :
    Agrees (s.performAll llvm es) (t.performAll llvm es) := by
  induction es generalizing s t with
  | nil => exact h
  | cons e rest ih => exact ih (h.perform llvm e)

end Agrees

/-! ### Rounds and whole sessions -/

/-- A round does no more than to carry out its statement, if it has one. -/
theorem agrees_round? (round : round? llvm s f = some (t, g)) :
    Agrees (s.performAll llvm (s.statement? f).toList) t := by
  rw [round?_eq] at round
  obtain ⟨⟨m, k⟩, move, same⟩ := Option.map_eq_some_iff.mp round
  cases same
  rw [statement?_eq, move]
  refine Agrees.trans ?_ (.report _ _)
  cases m with
  | separator => exact .prompt s
  | statement e => exact .refl _
  | refusal x => exact .refuse s x

theorem agrees_ends {e : Ended} (ends : Ends s f e) : Agrees s e.session := by
  cases ends with
  | finished _ => exact .refl s
  | broken fault before _ =>
    rcases before with rfl | rfl | ⟨x, rfl⟩
    · exact .halt _ fault _
    · exact (Agrees.prompt s).trans (.halt _ fault _)
    · exact (Agrees.refuse s x).trans (.halt _ fault _)

theorem loop_performs (llvm : Llvm) (s : Session) (f : Feed) :
    Agrees (s.performAll llvm (carried llvm s f)) (loop llvm s f).session := by
  fun_induction carried llvm s f with
  | case1 s f none => exact agrees_ends (loop_ends none)
  | case2 s f t g round _ ih =>
    rw [loop_of_round? round, performAll_append]
    exact ((agrees_round? round).performAll llvm _).trans ih

/-- **A session does with its constructs what it is there for**: it leaves the module and the
results of these, carried out one after the other from the start. -/
theorem run_performs (options : Options) (llvm : Llvm) (f : Feed) :
    Agrees ((ofOptions options).performAll llvm (constructs options llvm f))
      (run options llvm f).session := by
  unfold constructs
  refine run_cases options llvm f (fun e whole => ?_) (fun fault g next => ?_) fun g next => ?_
  · exact whole.trans ⟨rfl, rfl, rfl, rfl⟩
  · rw [next]
    exact (Agrees.prompt _).trans (.halt _ fault g)
  · rw [next]
    exact ((Agrees.prompt _).performAll llvm _).trans (loop_performs llvm _ g)

end Reckoner.Session

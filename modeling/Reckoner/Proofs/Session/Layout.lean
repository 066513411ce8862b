import Reckoner.Proofs.Llvm.Standard
import Reckoner.Proofs.Lowering.Places
import Reckoner.Proofs.Session.Growth
import Reckoner.Proofs.Session.Separators
import Reckoner.Proofs.Token.Spacing

/-! Layout does not matter.

Nothing in a session looks at a place: what it does with a construct or a fault is, up to
places, what it does with that construct or fault at another place (`unplaced_make`). So
sessions on feeds of the same tokens go the same way (`loop_alike`), and texts of the same
words have such feeds, whatever blanks and comments stand between the words
(`run_spacing`). -/
namespace Reckoner

/-- The diagnostic without its place. -/
def Diagnostic.unplaced (d : Diagnostic) : Diagnostic :=
  { d with location := none }

theorem Lowering.Fault.diagnostic_relocate (x : Lowering.Fault) :
    (x.relocate fun _ => none).diagnostic = x.diagnostic.unplaced := rfl

theorem Expr.Fault.diagnostic_relocate (x : Expr.Fault) :
    (x.relocate fun _ => none).diagnostic = x.diagnostic.unplaced := by
  have message := message_relocate (fun _ => none) x
  obtain ⟨expected, found⟩ := x
  cases found <;> simp_all [diagnostic, Diagnostic.unplaced, relocate, place, code, help, suggestions,
    Token.relocate]

mutual

theorem Expr.text_relocate (φ : Option Location → Option Location) :
    (e : Expr) → (e.relocate φ).text = e.text
  | .number _ _ | .var _ _ => by rw [relocate, text, text]
  | .prototype _ => by
    rw [relocate, text, text]
    rfl
  | .binary _ lhs rhs _ => by
    rw [relocate, text, text, text_relocate φ lhs, text_relocate φ rhs]
  | .call _ args _ => by rw [relocate, text, text, texts_relocate φ args]
  | .conditional x y z _ => by
    rw [relocate, text, text, text_relocate φ x, text_relocate φ y, text_relocate φ z]
  | .function p body _ => by
    rw [relocate, text, text, text_relocate φ body]
    rfl

theorem Expr.texts_relocate (φ : Option Location → Option Location) :
    (es : List Expr) → texts (relocateAll φ es) = texts es
  | [] => rfl
  | e :: rest => by rw [relocateAll, texts, texts, text_relocate φ e, texts_relocate φ rest]

end

namespace Session
open Lowering

def Event.unplaced : Event → Event
  | diagnostic d => diagnostic d.unplaced
  | e => e

/-- The session without the places in what it has recorded and shown. -/
def unplaced (s : Session) : Session :=
  { s with
    generator := s.generator.relocate fun _ => none
    parseFaults := s.parseFaults.map (Expr.Fault.relocate fun _ => none)
    events := s.events.map Event.unplaced }

section
variable (s : Session)

theorem unplaced_emit (e : Event) : (s.emit e).unplaced = s.unplaced.emit e.unplaced := by
  simp [emit, unplaced]

theorem unplaced_write (text : String) : (s.write text).unplaced = s.unplaced.write text :=
  unplaced_emit s _

theorem unplaced_prompt : s.prompt.unplaced = s.unplaced.prompt := by
  have options : s.unplaced.options = s.options := rfl
  unfold prompt
  rw [options]
  split
  · exact unplaced_emit s _
  · rfl

theorem unplaced_refuse (x : Expr.Fault) :
    (s.refuse x).unplaced = s.unplaced.refuse (x.relocate fun _ => none) := by
  simp [refuse, emit, unplaced, Event.unplaced, Expr.Fault.diagnostic_relocate]

theorem unplaced_showParse (what : String) (e : Expr) :
    (s.showParse what e).unplaced = s.unplaced.showParse what e.unplaced := by
  have options : s.unplaced.options = s.options := rfl
  unfold showParse
  rw [options, Expr.unplaced, Expr.text_relocate]
  split
  · exact unplaced_write s _
  · rfl

theorem unplaced_lower (e : Expr) :
    s.unplaced.lower e.unplaced = ((s.lower e).1, (s.lower e).2.unplaced) := by
  have generated := generate_relocate (φ := fun _ => none) s.generator e
  have generator : s.unplaced.generator = s.generator.relocate fun _ => none := rfl
  have shown (x : Lowering.Fault) : Event.unplaced (.diagnostic x.diagnostic) =
      .diagnostic (x.relocate fun _ => none).diagnostic := rfl
  unfold lower
  rw [generator, Expr.unplaced, generated]
  simp [unplaced, Generator.relocate, Function.comp_def, shown, List.map_drop]

theorem unplaced_showIR (what name : String) :
    (s.showIR what name).unplaced = s.unplaced.showIR what name := by
  have options : s.unplaced.options = s.options := rfl
  have found : s.unplaced.generator.function? name = s.generator.function? name := rfl
  unfold showIR
  rw [options, found]
  split
  · split
    · exact unplaced_write _ _
    · rfl
  · rfl

theorem unplaced_extend (parsed lowered name : String) (e : Expr) :
    (s.extend parsed lowered name e).unplaced = s.unplaced.extend parsed lowered name e.unplaced := by
  unfold extend
  rw [← unplaced_showParse, unplaced_lower]
  cases (s.showParse parsed e).lower e with
  | mk value t =>
    cases value with
    | none => rfl
    | some v => exact unplaced_showIR t lowered name

theorem unplaced_evaluate (llvm : Llvm) :
    (s.evaluate llvm).unplaced = s.unplaced.evaluate llvm := by
  have printed : s.unplaced.generator.printed.module = s.generator.printed.module := rfl
  have removed : (s.unplaced.generator.printed.remove anonymousName).2 =
      (s.generator.printed.remove anonymousName).2.relocate fun _ => none := by
    unfold Generator.remove Generator.function?
    rw [printed]
    cases s.generator.printed.module.function? anonymousName <;> rfl
  have options : s.unplaced.options = s.options := rfl
  have started : s.unplaced.started = s.started := rfl
  unfold evaluate
  dsimp only
  rw [printed, removed, options, started]
  cases Evaluation.run llvm s.started s.options.level s.generator.printed.module anonymousName with
  | error fault => exact unplaced_emit _ _
  | ok result =>
    dsimp only
    split
    · exact unplaced_write _ _
    · refine (unplaced_write _ _).trans (congrArg (write · _) ?_)
      simp [emit, unplaced, Event.unplaced]

theorem unplaced_perform (llvm : Llvm) (e : Expr) :
    (s.perform llvm e).unplaced = s.unplaced.perform llvm e.unplaced := by
  cases e with
  | prototype p => exact unplaced_extend s _ _ _ _
  | function p body l =>
    have anonymous : (p.relocate fun _ => none).isAnonymous = p.isAnonymous := rfl
    rw [Expr.unplaced, Expr.relocate]
    simp only [perform, anonymous]
    split
    · have lowered := unplaced_lower (s.showParse "Parsed a top-level expression" body)
        (.function p body l)
      rw [unplaced_showParse, Expr.unplaced, Expr.unplaced, Expr.relocate] at lowered
      rw [lowered]
      cases (s.showParse "Parsed a top-level expression" body).lower (.function p body l) with
      | mk value t =>
        cases value with
        | none => rfl
        | some v =>
          dsimp only
          rw [unplaced_evaluate, unplaced_showIR]
          rfl
    · exact unplaced_extend s _ _ _ (.function p body l)
  | _ => rfl

/-- **Places do not matter to what a move makes of a session.** -/
theorem unplaced_make (llvm : Llvm) (m : Move) :
    (s.make llvm m).unplaced = s.unplaced.make llvm (m.relocate fun _ => none) := by
  cases m with
  | separator => exact unplaced_prompt s
  | statement e => exact unplaced_perform s llvm e
  | refusal x => exact unplaced_refuse s x

end

/-! ### Feeds of the same tokens -/

/-- Feeds of the same tokens, up to their places, with the same faults of numerals so far. -/
structure Echoes (f g : Feed) : Prop where
  matching : Matching f g
  faults : f.faults.toList.map (·.diagnostic.unplaced) = g.faults.toList.map (·.diagnostic.unplaced)

theorem diagnostic_fault? {t u : Token}
    (same : t.relocate (fun _ => none) = u.relocate fun _ => none) :
    t.fault?.map (·.diagnostic.unplaced) = u.fault?.map (·.diagnostic.unplaced) := by
  obtain ⟨kind, lexeme, value, l⟩ := t
  obtain ⟨kind', lexeme', value', k⟩ := u
  simp only [Token.relocate, Token.mk.injEq] at same
  obtain ⟨rfl, rfl, rfl, -⟩ := same
  unfold Token.fault?
  split <;> rfl

section
variable {f g f' g' : Feed} {s t : Session}

theorem map_fault?_current (h : Matching f g) :
    (f.current.bind Token.fault?).map (·.diagnostic.unplaced) =
      (g.current.bind Token.fault?).map (·.diagnostic.unplaced) := by
  have same := (Matching.lockstep .empty).current h
  cases here : f.current with
  | none =>
    rw [here] at same
    rw [Option.map_eq_none_iff.mp same.symm]
  | some t =>
    rw [here] at same
    obtain ⟨u, there, same⟩ := Option.map_eq_some_iff.mp same.symm
    rw [there]
    exact diagnostic_fault? same.symm

theorem Echoes.next (h : Echoes f g) :
    ∃ f' g', f.next = (none, f') ∧ g.next = (none, g') ∧ Echoes f' g' := by
  obtain ⟨f', g', next, next', matching⟩ := h.matching.next
  refine ⟨f', g', next, next', matching, ?_⟩
  rw [Feed.faults_next next, Feed.faults_next next', List.map_append, List.map_append, h.faults,
    ← Option.toList_map, ← Option.toList_map, map_fault?_current matching]

theorem Echoes.lockstep (ops : Operators) : Expr.Lockstep (fun _ => none) ops Echoes where
  current := fun h => (Matching.lockstep ops).current h.matching
  next := fun h _ _ => .inl h.next

theorem unplaced_report (same : s.unplaced = t.unplaced) (h : Echoes f g) :
    (s.report f.faults).unplaced = (t.report g.faults).unplaced := by
  have shown : s.shown = t.shown := (congrArg Session.shown same : s.unplaced.shown = _)
  have size : f.faults.size = g.faults.size := by simpa using congrArg List.length h.faults
  have fresh : (f.faults.toList.drop s.shown).map (Event.diagnostic ·.diagnostic.unplaced) =
      (g.faults.toList.drop t.shown).map (Event.diagnostic ·.diagnostic.unplaced) := by
    have dropped := congrArg (fun ds => (ds.drop t.shown).map Event.diagnostic) h.faults
    simpa [← List.map_drop, shown, Function.comp_def] using dropped
  have reported (s : Session) (faults : Array Token.Fault) : (s.report faults).unplaced =
      { s.unplaced with
        events := s.unplaced.events ++ ((faults.toList.drop s.shown).map
          (Event.diagnostic ·.diagnostic.unplaced)).toArray
        shown := faults.size } := by
    simp [report, unplaced, Function.comp_def, Event.unplaced]
  rw [reported, reported, same, fresh, size]

/-- **Sessions on feeds of the same tokens end alike**, if they start alike. -/
theorem loop_alike (llvm : Llvm) (same : s.unplaced = t.unplaced) (h : Echoes f g) :
    (loop llvm s f).session.unplaced = (loop llvm t g).session.unplaced ∧
      (loop llvm s f).faults.toList.map (·.diagnostic.unplaced) =
        (loop llvm t g).faults.toList.map (·.diagnostic.unplaced) := by
  induction f using Feed.size_induction generalizing g s t with
  | smaller f ih =>
    have lock := Echoes.lockstep s.operators
    have ended : f.atEnd = g.atEnd := lock.any_eq h fun _ => rfl
    have operators : s.operators = t.operators :=
      (congrArg Session.operators same : s.unplaced.operators = _)
    cases here : f.atEnd with
    | true =>
      rw [loop_of_atEnd here, loop_of_atEnd (ended ▸ here)]
      exact ⟨same, h.faults⟩
    | false =>
      obtain ⟨m, m', f', g', move, move', moved, behind⟩ :=
        move?_alike lock h here (fun h => h) Echoes.next
      have made : (s.make llvm m).unplaced = (t.make llvm m').unplaced := by
        rw [unplaced_make, unplaced_make, same, moved]
      rw [operators] at move'
      rw [loop_of_move? move, loop_of_move? move']
      exact ih f' (size_of_move? move) (unplaced_report made behind) behind

theorem run_alike (options : Options) (llvm : Llvm) (next : f.next = (none, f'))
    (next' : g.next = (none, g')) (h : Echoes f' g') :
    (run options llvm f).session.unplaced = (run options llvm g).session.unplaced ∧
      (run options llvm f).faults.toList.map (·.diagnostic.unplaced) =
        (run options llvm g).faults.toList.map (·.diagnostic.unplaced) := by
  have looped := loop_alike llvm (s := (ofOptions options).prompt) rfl h
  unfold run
  rw [next, next']
  dsimp only
  split
  · exact ⟨by rw [unplaced_write, unplaced_write, looped.1], looped.2⟩
  · exact looped

end

/-! ### Texts of the same words -/

section
variable {file : String} {a b : String} {ts us : List Token}

theorem exists_echoes (file : String) (ascii : IsAscii a.toList) (ascii' : IsAscii b.toList)
    (same : tokensOf a.toList = tokensOf b.toList) :
    ∃ f g, (Feed.ofSource file (.ofString a)).next = (none, f) ∧
      (Feed.ofSource file (.ofString b)).next = (none, g) ∧ Echoes f g := by
  rw [← map_tokensFrom file [], ← map_tokensFrom file []] at same
  have start : Echoes (Feed.ofSource file (.ofString a)) (Feed.ofSource file (.ofString b)) := by
    rw [Feed.ofSource_ofString file ascii, Feed.ofSource_ofString file ascii']
    exact ⟨.mk rfl same, rfl⟩
  exact start.next

theorem textOf_unplaced {p : Event → Bool} (free : ∀ d, p (.diagnostic d) = false)
    (events : Transcript) : Transcript.textOf p (events.map Event.unplaced) = events.textOf p := by
  have alike : p ∘ Event.unplaced = p := by
    funext e
    cases e <;> simp [Event.unplaced, free]
  have texts : ∀ e ∈ events.filter p, e.unplaced.text = e.text := by
    intro e mem
    cases e with
    | diagnostic d => simp [free] at mem
    | _ => rfl
  rw [Transcript.textOf, Transcript.textOf, List.filter_map, alike, List.map_map]
  exact congrArg String.join (List.map_congr_left texts)

/-- **Layout does not matter.** Texts of the same words have the same tokens, and sessions on
them have the same results, the same module at the end and the same transcript. Diagnostics
differ in their places only. -/
theorem run_spacing (options : Options) (llvm : Llvm) (ascii : IsAscii a.toList)
    (ascii' : IsAscii b.toList) (tokens : Lexer.tokens file a = .ok ts)
    (spacing : IsSpacing b (ts.dropLast.map (·.lexeme))) :
    ∃ us, Lexer.tokens file b = .ok us ∧
      us.map (fun t => (t.kind, t.lexeme, t.value)) =
        ts.map (fun t => (t.kind, t.lexeme, t.value)) ∧
      let r := run options llvm (.ofSource file (.ofString a))
      let r' := run options llvm (.ofSource file (.ofString b))
      r'.session.results = r.session.results ∧ r'.moduleText = r.moduleText ∧
        r'.transcript.host = r.transcript.host ∧ r'.transcript.output = r.transcript.output ∧
        r'.transcript.map Event.unplaced = r.transcript.map Event.unplaced ∧
        r'.session.parseFaults.toList.map (·.diagnostic.unplaced) =
          r.session.parseFaults.toList.map (·.diagnostic.unplaced) ∧
        r'.session.generator.faults.toList.map (·.diagnostic.unplaced) =
          r.session.generator.faults.toList.map (·.diagnostic.unplaced) ∧
        r'.faults.toList.map (·.diagnostic.unplaced) =
          r.faults.toList.map (·.diagnostic.unplaced) := by
  rw [Lexer.tokens_eq file ascii, Except.ok.injEq] at tokens
  subst tokens
  have lexemes : (tokensFrom file [] a.toList).map (·.lexeme) =
      (tokensOf a.toList).map (·.lexeme) := by
    rw [← map_tokensFrom file [], List.map_map]
    rfl
  rw [List.dropLast_concat, lexemes] at spacing
  have same := spacing.tokensOf_eq
  refine ⟨_, Lexer.tokens_eq file ascii', ?_, ?_⟩
  · have shapes := congrArg (List.map fun t => (t.kind, t.lexeme, t.value)) same
    rw [← map_tokensFrom file [], ← map_tokensFrom file [], List.map_map, List.map_map] at shapes
    rw [List.map_append, List.map_append]
    exact congrArg (· ++ _) shapes
  · obtain ⟨f, g, next, next', echoes⟩ := exists_echoes file ascii' ascii same
    obtain ⟨session, faults⟩ := run_alike options llvm next next' echoes
    have field {α : Type} (get : Session → α) := congrArg get session
    have events := field fun s => s.events.toList
    have shown : ((run options llvm (.ofSource file (.ofString b))).transcript).map Event.unplaced =
        ((run options llvm (.ofSource file (.ofString a))).transcript).map Event.unplaced := by
      simpa [unplaced, Ended.transcript] using events
    refine ⟨field (·.results), field (·.generator.module.text), ?_, ?_, shown, ?_, ?_, faults⟩
    · have texts := congrArg Transcript.host shown
      rwa [Transcript.host, Transcript.host, textOf_unplaced fun _ => rfl,
        textOf_unplaced fun _ => rfl] at texts
    · have texts := congrArg Transcript.output shown
      rwa [Transcript.output, Transcript.output, textOf_unplaced fun _ => rfl,
        textOf_unplaced fun _ => rfl] at texts
    · have refused := field fun s => s.parseFaults.toList.map Expr.Fault.diagnostic
      simpa [unplaced, Function.comp_def, Expr.Fault.diagnostic_relocate] using refused
    · have refused := field fun s => s.generator.faults.toList.map Lowering.Fault.diagnostic
      simpa [unplaced, Generator.relocate, Function.comp_def, Fault.diagnostic_relocate] using refused

/-- A point inside a numeral starts another one, whether or not there is a gap in front of it. -/
theorem run_spacing_of_numerals :
    IsSpacing "1.2 #!\n.3" ["1.2", ".3"] ∧
      (run {} (.within 9) (.ofSource "<stdin>" (.ofString "1.2 #!\n.3"))).session.results =
        (run {} (.within 9) (.ofSource "<stdin>" (.ofString "1.2.3"))).session.results := by
  have ascii : IsAscii "1.2.3".toList := by decide
  have ascii' : IsAscii "1.2 #!\n.3".toList := by decide
  have remark : IsRemark ['!'] := by simp [IsRemark]
  have gap : IsGap false [' ', '#', '!', '\n'] :=
    .blank rfl (@IsGap.comment _ _ '\n' [] remark (.inl rfl) .nil)
  have spacing : IsSpacing "1.2 #!\n.3" ["1.2", ".3"] :=
    ⟨[], [("1.2".toList, [' ', '#', '!', '\n']), (".3".toList, [])], by decide, by decide,
      by simp [gap, IsGap.nil], by decide⟩
  have lexemes : (Lexer.tokens "<stdin>" "1.2.3").toOption.map (·.dropLast.map (·.lexeme)) =
      some ["1.2", ".3"] := by decide +kernel
  have tokens := Lexer.tokens_eq "<stdin>" ascii
  rw [tokens, Except.toOption, Option.map_some, Option.some.injEq] at lexemes
  obtain ⟨us, -, -, results, -⟩ := run_spacing {} (.within 9) ascii ascii' tokens (lexemes ▸ spacing)
  exact ⟨spacing, results⟩

/-- A comment must be of characters that a source may have, or it is the end of the session. -/
theorem layout_with_foreign_comment :
    (Lexer.tokens "<stdin>" "1").toOption.map (·.dropLast.map (·.lexeme)) = some ["1"] ∧
      IsSpacing "#é\n1" ["1"] ∧ (Lexer.tokens "<stdin>" "#é\n1").toOption.isNone = true ∧
      (run {} (.within 9) (.ofSource "<stdin>" (.ofString "#é\n1"))).session.results.size ≠
        (run {} (.within 9) (.ofSource "<stdin>" (.ofString "1"))).session.results.size := by
  have remark : IsRemark ['é'] := by simp [IsRemark]
  have gap : IsGap false ['#', 'é', '\n'] := @IsGap.comment _ _ '\n' [] remark (.inl rfl) .nil
  have spacing : IsSpacing "#é\n1" ["1"] :=
    ⟨['#', 'é', '\n'], [("1".toList, [])], by decide, by decide, by simp [gap, IsGap.nil], by decide⟩
  exact ⟨by decide +kernel, spacing, by decide +kernel, by decide +kernel⟩

end

end Session

end Reckoner

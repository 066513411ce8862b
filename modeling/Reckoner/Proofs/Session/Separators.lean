import Reckoner.Proofs.Session.Moves
import Reckoner.Proofs.Token.Texts

/-! Separators.

A text that ends in a separator is a session of its own: what stands behind it is read as if
nothing stood before, however malformed that is. No statement reaches over a separator, as
the grammar does not know one. A statement that is refused is given up in front of the
separator or at it, and then one token is dropped, so the separator is passed at the latest
when the next statement begins. -/
namespace Reckoner.Session
open Reckoner.Expr

/-! ### Feeds of the same tokens -/

/-- Feeds of the same tokens, up to their places. -/
inductive Matching : Feed → Feed → Prop where
  | mk {t u : Option Token} {x y ts us l k} :
    t.map (Token.relocate fun _ => none) = u.map (Token.relocate fun _ => none) →
    List.map (Token.relocate fun _ => none) ts = List.map (Token.relocate fun _ => none) us →
    Matching ⟨t, x, ts.map .ok, .finished l⟩ ⟨u, y, us.map .ok, .finished k⟩

section
variable {f g : Feed} {ops : Operators}

theorem exists_matching_next {ts us : List Token} {x y : Array Token.Fault} {l k : Option Location}
    (t u : Option Token)
    (ahead : ts.map (Token.relocate fun _ => none) = us.map (Token.relocate fun _ => none)) :
    ∃ f g, (Feed.mk t x (ts.map .ok) (.finished l)).next = (none, f) ∧
      (Feed.mk u y (us.map .ok) (.finished k)).next = (none, g) ∧ Matching f g := by
  cases ts with
  | nil =>
    obtain rfl := List.map_eq_nil_iff.mp ahead.symm
    exact ⟨_, _, rfl, rfl, @Matching.mk _ _ _ _ [] [] l k rfl rfl⟩
  | cons t ts =>
    obtain ⟨u, us, rfl, first, rest⟩ := List.map_eq_cons_iff.mp ahead.symm
    exact ⟨_, _, rfl, rfl, .mk (congrArg some first.symm) rest.symm⟩

theorem Matching.next (h : Matching f g) :
    ∃ f' g', f.next = (none, f') ∧ g.next = (none, g') ∧ Matching f' g' := by
  obtain ⟨-, ahead⟩ := h
  exact exists_matching_next _ _ ahead

theorem Matching.lockstep (ops : Operators) : Lockstep (fun _ => none) ops Matching where
  current := by
    rintro _ _ ⟨current, -⟩
    exact current
  next := fun h _ _ => .inl h.next

/-- The moves on feeds of the same tokens are the same, up to places. -/
theorem Matching.moves_eq (h : Matching f g) :
    (moves ops f).map (Move.relocate fun _ => none) =
      (moves ops g).map (Move.relocate fun _ => none) := by
  induction f using Feed.size_induction generalizing g with
  | smaller f ih =>
    have same : f.atEnd = g.atEnd := (Matching.lockstep ops).any_eq h fun _ => rfl
    cases ended : f.atEnd with
    | true =>
      rw [moves_of_none (move?_of_atEnd ended), moves_of_none (move?_of_atEnd (same ▸ ended))]
    | false =>
      obtain ⟨m, m', f', g', move, move', alike, behind⟩ :=
        move?_alike (Matching.lockstep ops) h ended (fun h => h) Matching.next
      rw [moves_of_some move, moves_of_some move', List.map_cons, List.map_cons, alike,
        ih f' (size_of_move? move) behind]

/-! ### Feeds that agree up to a separator -/

section
variable (a b : List Scanned) (x y : Feed.Ending)

/-- Feeds of the same tokens up to a separator, with different scans behind it. -/
inductive Shared : Feed → Feed → Prop where
  | mk {t : Token} {ts : List Token} {faults : Array Token.Fault} :
    (∃ u ∈ (t :: ts).getLast?, u.isSymbol ";" = true) → (∀ u ∈ t :: ts, u.kind ≠ .endOfInput) →
    Shared ⟨some t, faults, ts.map .ok ++ a, x⟩ ⟨some t, faults, ts.map .ok ++ b, y⟩

end

section
variable {a b : List Scanned} {x y : Feed.Ending}

theorem Shared.atEnd (h : Shared a b x y f g) : f.atEnd = false := by
  obtain ⟨-, more⟩ := h
  exact decide_eq_false (more _ List.mem_cons_self)

theorem Shared.faults_eq (h : Shared a b x y f g) : f.faults = g.faults := by
  cases h
  rfl

/-- A separator that is no operator is not passed by the parser. -/
theorem Shared.lockstep (free : ops.lookup ";" = none) : Lockstep id ops (Shared a b x y) where
  current := by
    rintro _ _ ⟨-, -⟩
    rfl
  next := by
    intro f g t h current passable
    cases h with
    | @mk u ts faults last more =>
      cases current
      cases ts with
      | nil =>
        obtain ⟨v, last, separator⟩ := last
        cases last
        exact absurd passable (Token.not_isPassable_of_separator free separator)
      | cons u ts =>
        rw [List.getLast?_cons_cons] at last
        exact .inl ⟨_, _, rfl, rfl, .mk last fun v hv => more v (List.mem_cons_of_mem _ hv)⟩

end

/-! ### Feeds with more tokens behind a separator -/

section
variable (qs : List Token) (l k : Option Location)

/-- Feeds of the same tokens up to a separator, which is the last token of the first feed. -/
inductive Joined : Feed → Feed → Prop where
  | mk {t ts x} : (∃ u ∈ (t :: ts).getLast?, u.isSymbol ";" = true) →
    (∀ u ∈ t :: ts, u.kind ≠ .endOfInput) →
    Joined ⟨some t, x, ts.map .ok, .finished l⟩ ⟨some t, x, (ts ++ qs).map .ok, .finished k⟩

/-- Feeds behind that separator. -/
inductive Parted : Feed → Feed → Prop where
  | mk {t x f g} : f.atEnd = true → (Feed.mk t x (qs.map .ok) (.finished k)).next = (none, g) →
    Parted f g

end

variable {qs : List Token} {l k : Option Location}

/-- Behind the separator the first feed has nothing and the second one further tokens. -/
theorem joined_eq : Joined qs l k = Shared [] (qs.map .ok) (.finished l) (.finished k) := by
  funext f g
  refine propext ⟨?_, ?_⟩
  · rintro ⟨last, more⟩
    rw [List.map_append]
    simpa only [List.append_nil] using
      Shared.mk (a := []) (b := qs.map .ok) (x := .finished l) (y := .finished k) last more
  · rintro ⟨last, more⟩
    rw [List.append_nil, ← List.map_append]
    exact .mk last more

theorem Joined.shared (h : Joined qs l k f g) :
    Shared [] (qs.map .ok) (.finished l) (.finished k) f g :=
  joined_eq ▸ h

theorem Joined.next (h : Joined qs l k f g) :
    ∃ f' g', f.next = (none, f') ∧ g.next = (none, g') ∧
      (Joined qs l k f' g' ∨ Parted qs k f' g') := by
  cases h with
  | @mk t ts x last more =>
    cases ts with
    | nil =>
      obtain ⟨g', next, -⟩ := (Feed.isStream_tokens (some t) x qs k).next
      exact ⟨_, g', rfl, next, .inr (.mk rfl next)⟩
    | cons u ts =>
      rw [List.getLast?_cons_cons] at last
      exact ⟨_, _, rfl, rfl, .inl (.mk last fun v hv => more v (List.mem_cons_of_mem _ hv))⟩

/-- Up to the separator, and over it, sessions make the same moves. -/
theorem Joined.exists_move? (free : ops.lookup ";" = none) (h : Joined qs l k f g) :
    ∃ m f' g', move? ops f = some (m, f') ∧ move? ops g = some (m, g') ∧
      (Joined qs l k f' g' ∨ Parted qs k f' g') := by
  have lockstep : Lockstep id ops (Joined qs l k) := by
    rw [joined_eq]
    exact Shared.lockstep free
  obtain ⟨m, m', f', g', move, move', same, behind⟩ :=
    move?_alike lockstep h h.shared.atEnd .inl Joined.next
  rw [Move.relocate_id, Move.relocate_id] at same
  exact ⟨m, f', g', move, same ▸ move', behind⟩

theorem Joined.moves_eq (free : ops.lookup ";" = none) (h : Joined qs l k f g) :
    ∃ t x g', (Feed.mk t x (qs.map .ok) (.finished k)).next = (none, g') ∧
      moves ops g = moves ops f ++ moves ops g' := by
  induction f using Feed.size_induction generalizing g with
  | smaller f ih =>
    obtain ⟨m, f', g', move, move', joined | parted⟩ := h.exists_move? free
    · obtain ⟨t, x, g'', next, rest⟩ := ih f' (size_of_move? move) joined
      refine ⟨t, x, g'', next, ?_⟩
      rw [moves_of_some move, moves_of_some move', rest, List.cons_append]
    · obtain ⟨ended, next⟩ := parted
      refine ⟨_, _, g', next, ?_⟩
      rw [moves_of_some move, moves_of_some move', moves_of_none (move?_of_atEnd ended)]
      rfl

/-- A session has its results up to the separator also if it goes on behind it. -/
theorem Joined.results_loop {llvm : Llvm} {s : Session} (free : s.operators.lookup ";" = none)
    (h : Joined qs l k f g) :
    (loop llvm s f).session.results.toList <+: (loop llvm s g).session.results.toList := by
  induction f using Feed.size_induction generalizing g s with
  | smaller f ih =>
    obtain ⟨m, f', g', move, move', joined | parted⟩ := h.exists_move? free
    · rw [loop_of_move? move, loop_of_move? move', joined.shared.faults_eq]
      refine ih f' (size_of_move? move) ?_ joined
      rwa [operators_report_make]
    · obtain ⟨ended, next⟩ := parted
      have stream := (Feed.isStream_tokens _ _ qs k).behind next
      rw [loop_of_move? move, loop_of_move? move', loop_of_atEnd ended]
      exact Session.results_loop llvm ((s.make llvm m).report g'.faults) stream

end

/-! ### Texts -/

/-- The feeds of a text that ends in a separator, alone and with another text behind it. -/
theorem exists_joined (file : String) {p q : String} (ascii : IsAscii p.toList)
    (ascii' : IsAscii q.toList) (ends : EndsInSeparator file p) :
    ∃ f g h qs l k, (Feed.ofSource file (.ofString p)).next = (none, f) ∧
      (Feed.ofSource file (.ofString (p ++ q))).next = (none, g) ∧
      (Feed.ofSource file (.ofString q)).next = (none, h) ∧ Joined qs l k f g ∧
      ∀ {t x g'}, (Feed.mk t x (qs.map .ok) (.finished k)).next = (none, g') → Matching g' h := by
  have both : IsAscii (p ++ q).toList := by
    rw [String.toList_append]
    exact List.forall_mem_append.mpr ⟨ascii, ascii'⟩
  obtain ⟨tokens, separator⟩ := ends.tokensFrom_append ascii q.toList
  rw [Feed.ofSource_ofString file ascii, Feed.ofSource_ofString file ascii',
    Feed.ofSource_ofString file both, String.toList_append, tokens]
  cases cut : tokensFrom file [] p.toList with
  | nil =>
    rw [cut] at separator
    obtain ⟨_, none, -⟩ := separator
    cases none
  | cons t ts =>
    have same := relocate_tokensFrom file file p.toList [] q.toList
    obtain ⟨_, h, -, next, -⟩ := exists_matching_next (x := #[]) (y := #[])
      (l := none) (k := some (.atEnd file q.toList)) none none same
    refine ⟨_, _, h, tokensFrom file p.toList q.toList, _, _, rfl, rfl, next,
      .mk (cut ▸ separator) fun u hu => kind_of_mem_tokensFrom (cut ▸ hu), ?_⟩
    intro u x g' next'
    obtain ⟨g'', h', first, second, matching⟩ := exists_matching_next (x := x) (y := #[])
      (l := some (.atEnd file (p.toList ++ q.toList))) (k := some (.atEnd file q.toList)) u none same
    cases next'.symm.trans first
    cases next.symm.trans second
    exact matching

/-- **A separator ends whatever stands before it.** If a text ends in a separator that is no
part of a comment, then a session on it and more text behind it carries out the constructs of
the text and then those of a session on the other text alone, up to their places. Its parses
have the faults of both, and it has the results of the text first. -/
theorem run_append (options : Options) (llvm : Llvm) (file : String) {p q : String}
    (ascii : IsAscii p.toList) (ascii' : IsAscii q.toList) (ends : EndsInSeparator file p) :
    (constructs options llvm (.ofSource file (.ofString (p ++ q)))).map Expr.unplaced =
        (constructs options llvm (.ofSource file (.ofString p))).map Expr.unplaced ++
          (constructs options llvm (.ofSource file (.ofString q))).map Expr.unplaced ∧
      (run options llvm (.ofSource file (.ofString (p ++ q)))).session.parseFaults.toList.map
          (fun x => (x.code, x.message)) =
        (run options llvm (.ofSource file (.ofString p))).session.parseFaults.toList.map
            (fun x => (x.code, x.message)) ++
          (run options llvm (.ofSource file (.ofString q))).session.parseFaults.toList.map
            (fun x => (x.code, x.message)) ∧
      (run options llvm (.ofSource file (.ofString p))).session.results.toList <+:
        (run options llvm (.ofSource file (.ofString (p ++ q)))).session.results.toList := by
  obtain ⟨f, g, h, qs, l, k, first, both, second, joined, matching⟩ :=
    exists_joined file ascii ascii' ends
  have free : Operators.standard.lookup ";" = none := by decide
  obtain ⟨t, x, g', next, later⟩ := joined.moves_eq free
  have whole : (moves .standard g).map (Move.relocate fun _ => none) =
      (moves .standard f ++ moves .standard h).map (Move.relocate fun _ => none) := by
    rw [later, List.map_append, List.map_append, (matching next).moves_eq]
  have streams : IsAscii (p ++ q).toList := by
    rw [String.toList_append]
    exact List.forall_mem_append.mpr ⟨ascii, ascii'⟩
  rw [constructs_of_next options first, constructs_of_next options both,
    constructs_of_next options second,
    parseFaults_run options first (Feed.isStream_ofString file ascii),
    parseFaults_run options both (Feed.isStream_ofString file streams),
    parseFaults_run options second (Feed.isStream_ofString file ascii'),
    results_run options first, results_run options both]
  refine ⟨?_, ?_, joined.results_loop ?_⟩
  · rw [Move.statements_eq whole, List.filterMap_append, List.map_append]
  · rw [Move.faults_eq whole, List.filterMap_append, List.map_append]
  · rwa [operators_start]

/-- A definition without a name ends at its separator. -/
theorem endsInSeparator_def : EndsInSeparator "<stdin>" "def ;" := by
  have ascii : IsAscii "def ;".toList := by decide
  have first : tokensFrom "<stdin>" [] "def ;".toList =
      _ :: tokensFrom "<stdin>" "def".toList " ;".toList :=
    tokensFrom_cons (by decide : layout false "def ;".toList = ([], 'd' :: "ef ;".toList))
  have second : tokensFrom "<stdin>" "def".toList " ;".toList = _ :: _ :=
    tokensFrom_cons (by decide : layout false " ;".toList = ([' '], [';']))
  have mem : Token.ofWord (word [';']) (.behind "<stdin>" ("def".toList ++ [' '])) ∈
      tokensFrom "<stdin>" [] "def ;".toList := by
    rw [first, second]
    exact List.mem_cons_of_mem _ List.mem_cons_self
  exact ⟨by decide, _, _, _, Lexer.tokens_eq "<stdin>" ascii, List.mem_append_left _ mem, rfl,
    Token.location_ofWord _ _, by decide⟩

/-- A definition without a name does not change the session on what stands behind it. -/
theorem run_append_def : IsAscii "def ;".toList ∧ IsAscii "f();".toList ∧
    EndsInSeparator "<stdin>" "def ;" ∧
    (constructs {} .standard (.ofSource "<stdin>" (.ofString ("def ;" ++ "f();")))).map Expr.unplaced =
      (constructs {} .standard (.ofSource "<stdin>" (.ofString "def ;"))).map Expr.unplaced ++
        (constructs {} .standard (.ofSource "<stdin>" (.ofString "f();"))).map Expr.unplaced := by
  have ascii : IsAscii "def ;".toList := by decide
  have ascii' : IsAscii "f();".toList := by decide
  exact ⟨ascii, ascii', endsInSeparator_def,
    (run_append {} .standard "<stdin>" ascii ascii' endsInSeparator_def).1⟩

end Reckoner.Session

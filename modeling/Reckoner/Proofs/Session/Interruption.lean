import Reckoner.Proofs.Llvm.Standard
import Reckoner.Proofs.Session.Growth
import Reckoner.Proofs.Session.Separators
import Reckoner.Proofs.Token.Lookahead

/-! Sessions that are interrupted.

A source that breaks off ends its session at the fault. What stands in front of a separator
is not lost thereby, if at least one good character follows the separator: up to there the
session is the one on the text alone, round by round (`after_shared`), and at its end it has
all that it had then (`interrupted_run`). The character is needed, as a separator is given
to the parser only once the character behind it has been read. -/
namespace Reckoner.Session
open Reckoner.Expr

/-! ### How a fault of the source ends a session -/

section
variable {llvm : Llvm} {s : Session} {f g h : Feed} {fault : Token.Fault}

theorem loop_of_separator (more : f.atEnd = false) (separator : symbol? f ";" = true)
    (next : f.next = (some fault, g)) : loop llvm s f = s.prompt.halt fault g := by
  rw [loop_eq, more, if_neg Bool.false_ne_true, if_pos separator, next]

theorem loop_of_refused {x : Expr.Fault} (more : f.atEnd = false) (other : symbol? f ";" = false)
    (refused : (Expr.statement s.operators f).outcome = .refused x g)
    (next : g.next = (some fault, h)) : loop llvm s f = (s.refuse x).halt fault h := by
  rw [loop_eq, more, if_neg Bool.false_ne_true, other, if_neg Bool.false_ne_true, refused]
  dsimp only
  rw [next]

theorem loop_of_stopped (more : f.atEnd = false) (other : symbol? f ";" = false)
    (stopped : (Expr.statement s.operators f).outcome = .stopped (.source fault) g) :
    loop llvm s f = s.halt fault g := by
  rw [loop_eq, more, if_neg Bool.false_ne_true, other, if_neg Bool.false_ne_true, stopped]

end

/-! ### Feeds that agree up to a separator -/

section
variable {a b : List Scanned} {x y : Feed.Ending} {f g k : Feed} {ops : Operators}
variable {options : Options} {llvm : Llvm} {n : Nat} {s : Session} {m : Move}

/-- Behind a token both feeds move on together, unless that was the separator. -/
theorem Shared.next (h : Shared a b x y f g) (next : f.next = (none, k)) :
    (∃ l, g.next = (none, l) ∧ Shared a b x y k l) ∨ k.size ≤ 2 * a.length := by
  have moved := Feed.size_next_lt next h.atEnd
  cases h with
  | @mk t ts faults last more =>
    cases ts with
    | nil =>
      refine .inr ?_
      have size := Bool.toNat_le (!(Feed.mk (some t) faults ([].map .ok ++ a) x).atEnd)
      simp only [Feed.size, List.map_nil, List.nil_append] at moved size ⊢
      omega
    | cons u ts =>
      cases next
      rw [List.getLast?_cons_cons] at last
      exact .inl ⟨_, rfl, .mk last fun v hv => more v (List.mem_cons_of_mem _ hv)⟩

/-- The last part of a move that drops a token: `moved` tells whether the move is made on the
second feed, where a fault of the source may come instead of the next token. -/
theorem Shared.exists_next {f' g' : Feed} {moved : Option (Move × Feed)} (h : Shared a b x y f' g')
    (next : f'.next = (none, k)) (quiet : m.statement? = none)
    (goes : ∀ l, g'.next = (none, l) → moved = some (m, l))
    (stops : ∀ fault l, g'.next = (some fault, l) →
      moved = none ∧ loop llvm s g = (s.make llvm m).halt fault l) :
    (∃ l, moved = some (m, l) ∧ Shared a b x y k l) ∨
      k.size ≤ 2 * a.length ∧
        ((∃ l, moved = some (m, l)) ∨
          m.statement? = none ∧ moved = none ∧
            ∃ fault l, loop llvm s g = (s.make llvm m).halt fault l) := by
  rcases h.next next with ⟨l, next', shared⟩ | past
  · exact .inl ⟨l, goes l next', shared⟩
  · refine .inr ⟨past, ?_⟩
    cases next' : g'.next with
    | mk fault l =>
      cases fault with
      | none => exact .inl ⟨l, goes l next'⟩
      | some fault =>
        obtain ⟨none, ended⟩ := stops fault l next'
        exact .inr ⟨quiet, none, fault, l, ended⟩

/-- A move up to the separator is made on both feeds. One that passes the separator is made
on the second feed too, or begun there before a fault of the source ends the session. -/
theorem Shared.exists_move? (llvm : Llvm) (free : s.operators.lookup ";" = none)
    (h : Shared a b x y f g) (move : move? s.operators f = some (m, k)) :
    (∃ l, move? s.operators g = some (m, l) ∧ Shared a b x y k l) ∨
      k.size ≤ 2 * a.length ∧
        ((∃ l, move? s.operators g = some (m, l)) ∨
          m.statement? = none ∧ move? s.operators g = none ∧
            ∃ fault l, loop llvm s g = (s.make llvm m).halt fault l) := by
  have lock := Shared.lockstep (a := a) (b := b) (x := x) (y := y) free
  have ended : g.atEnd = false := (lock.any_eq h fun _ => rfl).symm.trans h.atEnd
  have separators := lock.symbol?_eq h ";"
  unfold move? at move ⊢
  rw [h.atEnd, separators] at move
  rw [ended]
  simp only [Bool.false_eq_true, if_false] at move ⊢
  cases separator : symbol? g ";" with
  | true =>
    rw [separator, if_pos rfl] at move
    rw [if_pos rfl]
    split at move
    · cases move
    · rename_i next
      cases move
      refine h.exists_next next rfl (fun l next' => by rw [next']) fun fault l next' => ?_
      exact ⟨by rw [next'], loop_of_separator ended separator next'⟩
  | false =>
    rw [separator, if_neg Bool.false_ne_true] at move
    rw [if_neg Bool.false_ne_true]
    have alike := statement_alike lock h
    generalize (Expr.statement s.operators f).outcome = outcome at alike move
    cases given : (Expr.statement s.operators g).outcome with
    | found e l =>
      rw [given] at alike
      cases alike with
      | found same shared =>
        cases move
        rw [Expr.relocate_id, Expr.relocate_id] at same
        exact .inl ⟨l, by rw [same], shared⟩
    | refused z l =>
      rw [given] at alike
      cases alike with
      | refused same shared =>
        rw [Fault.relocate_id, Fault.relocate_id] at same
        subst same
        dsimp only at move ⊢
        split at move
        · cases move
        · rename_i next
          cases move
          refine shared.exists_next next rfl (fun p next' => by rw [next']) fun fault p next' => ?_
          exact ⟨by rw [next'], loop_of_refused ended separator given next'⟩
    | stopped why l =>
      rw [given] at alike
      cases alike with
      | stopped broken => exact broken.elim

/-- **Up to the separator, sessions on both feeds are the same**, round by round. -/
theorem after_shared {f₀ g₀ : Feed} (first : f.next = (none, f₀)) (second : g.next = (none, g₀))
    (start : Shared a b x y f₀ g₀) (h : after options llvm f n = some (s, k))
    (here : 2 * a.length < k.size) :
    ∃ l, after options llvm g n = some (s, l) ∧ Shared a b x y k l := by
  induction n generalizing s k with
  | zero =>
    rw [after, first] at h
    cases h
    exact ⟨g₀, by rw [after, second], start⟩
  | succ n ih =>
    obtain ⟨r, p, m, before, move, rfl⟩ := exists_move_of_after h
    have smaller := size_of_move? move
    obtain ⟨q, before', shared⟩ := ih before (by omega)
    rcases shared.exists_move? llvm (not_operator_after before) move with
      ⟨l, move', shared⟩ | ⟨past, -⟩
    · exact ⟨l, shared.faults_eq ▸ after_of_move? before' move', shared⟩
    · exact absurd here (Nat.not_lt.mpr past)

/-- A move of the session on the first feed up to the separator is not lost on the second. -/
theorem retains_shared {f₀ g₀ : Feed} (first : f.next = (none, f₀)) (second : g.next = (none, g₀))
    (start : Shared a b x y f₀ g₀) (spelled : g.Spelled)
    (h : after options llvm f n = some (s, k)) (here : 2 * a.length < k.size) {p : Feed}
    (move : move? s.operators k = some (m, p)) :
    ∃ l, after options llvm g n = some (s, l) ∧ s.statement? l = m.statement? ∧
      Retains (s.make llvm m) (run options llvm g).session := by
  obtain ⟨l, there, shared⟩ := after_shared first second start h here
  have made {q : Feed} (move' : move? s.operators l = some (m, q)) :
      s.statement? l = m.statement? ∧ Retains (s.make llvm m) (run options llvm g).session := by
    refine ⟨by rw [statement?_eq, move', Option.bind_some], ?_⟩
    exact (retains_report _ _).trans (retains_run spelled (after_of_move? there move'))
  refine ⟨l, there, ?_⟩
  rcases shared.exists_move? llvm (not_operator_after h) move with
    ⟨q, move', -⟩ | ⟨-, ⟨q, move'⟩ | ⟨none, unmoved, fault, q, halted⟩⟩
  · exact made move'
  · exact made move'
  · have ended := retains_run_of_loop there
    rw [halted] at ended
    exact ⟨by rw [statement?_eq, unmoved, Option.bind_none, none],
      (retains_halt _ fault q).trans ended⟩

end

/-! ### Feeds that break off -/

/-- Feeds with tokens, of which none is the end of the input, that then meet a fault. -/
inductive Breaking (fault : Token.Fault) : Feed → Prop where
  | mk {t : Token} {ts : List Token} {faults : Array Token.Fault} {more : List Scanned}
    {ending : Feed.Ending} : (∀ u ∈ t :: ts, u.kind ≠ .endOfInput) →
    Feed.Meets fault more ending → Breaking fault ⟨some t, faults, ts.map .ok ++ more, ending⟩

section
variable {fault : Token.Fault} {f g : Feed}

theorem Breaking.atEnd (h : Breaking fault f) : f.atEnd = false := by
  obtain ⟨more, -⟩ := h
  exact decide_eq_false (more _ List.mem_cons_self)

theorem Breaking.next (h : Breaking fault f) :
    (∃ g, f.next = (none, g) ∧ Breaking fault g) ∨ ∃ g, f.next = (some fault, g) := by
  cases h with
  | @mk t ts faults more ending tokens meets =>
    cases ts with
    | nil =>
      cases meets with
      | once more ending => exact .inr ⟨_, rfl⟩
      | always => exact .inr ⟨_, rfl⟩
    | cons u ts => exact .inl ⟨_, rfl, .mk (fun v hv => tokens v (List.mem_cons_of_mem _ hv)) meets⟩

theorem Breaking.of_next (h : Breaking fault f) (next : f.next = (none, g)) : Breaking fault g := by
  rcases h.next with ⟨g', next', breaking⟩ | ⟨g', next'⟩
  · cases next.symm.trans next'
    exact breaking
  · cases next.symm.trans next'

theorem Breaking.fault_eq {other : Token.Fault} (h : Breaking fault f)
    (next : f.next = (some other, g)) : other = fault := by
  rcases h.next with ⟨g', next', -⟩ | ⟨g', next'⟩
  · cases next.symm.trans next'
  · cases next.symm.trans next'
    rfl

theorem Breaking.onward (h : Breaking fault f) (onward : f.Onward g) : Breaking fault g := by
  induction onward with
  | refl => exact h
  | tail _ next ih => exact ih.of_next next

/-- The fault where a feed breaks off is the one that ends the session. -/
theorem Breaking.fatal (h : Breaking fault f) (llvm : Llvm) (s : Session) :
    (loop llvm s f).fatal = some fault := by
  induction f using Feed.size_induction generalizing s with
  | smaller f ih =>
    cases move : move? s.operators f with
    | some made =>
      obtain ⟨m, g⟩ := made
      rw [loop_of_move? move]
      exact ih g (size_of_move? move) (h.onward (onward_of_move? move)) _
    | none =>
      unfold move? at move
      rw [h.atEnd] at move
      simp only [Bool.false_eq_true, if_false] at move
      cases separator : symbol? f ";" with
      | true =>
        rw [separator, if_pos rfl] at move
        rcases h.next with ⟨g, next, -⟩ | ⟨g, next⟩
        · rw [next] at move
          cases move
        · rw [loop_of_separator h.atEnd separator next]
          rfl
      | false =>
        rw [separator, if_neg Bool.false_ne_true] at move
        have onward := statement_onward s.operators f
        cases given : (Expr.statement s.operators f).outcome with
        | found e g =>
          rw [given] at move
          cases move
        | refused x g =>
          rw [given] at move onward
          cases onward with
          | refused onward =>
            rcases (h.onward onward).next with ⟨k, next, -⟩ | ⟨k, next⟩
            · simp [next] at move
            · rw [loop_of_refused h.atEnd separator given next]
              rfl
        | stopped why g =>
          rw [given] at onward
          cases onward with
          | stopped onward next =>
            cases (h.onward onward).fault_eq next
            rw [loop_of_stopped h.atEnd separator given]
            rfl

end

/-! ### Texts -/

/-- The tokens of a feed that requests lead to are the last ones of those in front. -/
theorem exists_split {ts : List Token} {l : Option Location} {k : Feed} {t : Token}
    (onward : (Feed.mk none #[] (ts.map .ok) (.finished l)).Onward k) (current : k.current = some t)
    (more : t.kind ≠ .endOfInput) :
    ∃ front behind, ts = front ++ t :: behind ∧ 2 * behind.length < k.size := by
  have parts : ∃ front behind, ts = front ++ behind ∧ k.ahead = behind.map .ok ∧
      k.ending = .finished l ∧
      ∀ t, k.current = some t → t.kind ≠ .endOfInput → front.getLast? = some t := by
    clear current more
    induction onward with
    | refl => exact ⟨[], ts, rfl, rfl, rfl, nofun⟩
    | @tail f g _ next ih =>
      obtain ⟨front, behind, rfl, ahead, ending, last⟩ := ih
      cases behind with
      | nil =>
        simp only [Feed.next, ahead, ending, List.map_nil] at next
        cases next
        refine ⟨front, [], rfl, rfl, ending, fun t current more => ?_⟩
        cases current
        exact absurd rfl more
      | cons u behind =>
        simp only [Feed.next, ahead, List.map_cons] at next
        cases next
        refine ⟨front ++ [u], behind, by simp, rfl, ending, fun t current _ => ?_⟩
        rw [List.getLast?_concat]
        exact current
  obtain ⟨front, behind, rfl, ahead, -, last⟩ := parts
  obtain ⟨front, rfl⟩ := List.getLast?_eq_some_iff.mp (last t current more)
  refine ⟨front, behind, by simp, ?_⟩
  have left : k.atEnd = false := by simp [Feed.atEnd, current, more]
  simp [Feed.size, ahead, left]

/-- A list that starts with its elements that satisfy `p`, split at one of these. -/
theorem exists_split_filter {α : Type} {p : α → Bool} {xs late front behind : List α} {x : α}
    (parts : xs = xs.filter p ++ late) (split : xs = front ++ x :: behind) (fits : p x = true) :
    ∃ rest, xs.filter p = front ++ x :: rest ∧ behind = rest ++ late := by
  have others : late.filter p = [] := by
    have whole := congrArg (List.filter p) parts
    rw [List.filter_append, List.filter_filter] at whole
    simpa using whole
  rcases List.append_eq_append_iff.mp (parts.symm.trans split) with
    ⟨rest, outside, late'⟩ | ⟨rest, inside, rest'⟩
  · have mem : x ∈ late.filter p :=
      List.mem_filter.mpr ⟨late' ▸ List.mem_append_right _ List.mem_cons_self, fits⟩
    rw [others] at mem
    cases mem
  · cases rest with
    | nil =>
      have first : x ∈ [] ++ late := rest' ▸ List.mem_cons_self
      have mem : x ∈ late.filter p := List.mem_filter.mpr ⟨first, fits⟩
      rw [others] at mem
      cases mem
    | cons y rest =>
      rw [List.cons_append, List.cons.injEq] at rest'
      obtain ⟨rfl, rfl⟩ := rest'
      exact ⟨rest, inside, rfl⟩

section
variable {file : String} {good : List Char} {source : Source} {fault : Token.Fault} {k : Feed}
variable {t : Token}

theorem ofSource_ofList (file : String) (ascii : IsAscii good) :
    Feed.ofSource file (.ofList good) =
      { ahead := (tokensFrom file [] good).map .ok
        ending := .finished (some (.atEnd file good)) } := by
  have feed := Feed.ofSource_ofString file (show IsAscii (String.ofList good).toList by
    rwa [String.toList_ofList])
  rwa [Source.ofString, String.toList_ofList] at feed

/-- The feeds of a text and of a source that breaks off behind it agree up to a separator that
ends early enough. -/
theorem exists_shared (ascii : IsAscii good) (breaks : source.BreaksOff file good fault)
    (onward : (Feed.ofSource file (.ofList good)).Onward k) (current : k.current = some t)
    (separator : t.isSymbol ";" = true) (early : t.endsBefore good.length = true) :
    ∃ a b x y f g, (Feed.ofSource file (.ofList good)).next = (none, f) ∧
      (Feed.ofSource file source).next = (none, g) ∧ Shared a b x y f g ∧ Breaking fault g ∧
      2 * a.length < k.size := by
  obtain ⟨more, ending, feed, meets⟩ := Feed.exists_ofSource_of_breaksOff ascii breaks
  obtain ⟨late, parts⟩ := exists_late file [] good
  have kind : t.kind ≠ .endOfInput := by
    intro ended
    simp [Token.isSymbol, Token.symbol?, ended] at separator
  rw [ofSource_ofList file ascii] at onward ⊢
  rw [feed]
  obtain ⟨front, behind, tokens, size⟩ := exists_split onward current kind
  obtain ⟨rest, fits, rfl⟩ := exists_split_filter parts tokens early
  obtain ⟨u, us, ends⟩ := List.exists_cons_of_ne_nil
    (List.append_ne_nil_of_right_ne_nil front (List.cons_ne_nil t []))
  have appended (zs : List Token) : front ++ t :: zs = u :: (us ++ zs) := by
    rw [← List.singleton_append, ← List.append_assoc, ends, List.cons_append]
  rw [appended] at tokens fits
  have kinds : ∀ v ∈ u :: (us ++ rest), v.kind ≠ .endOfInput := fun v hv =>
    kind_of_mem_tokensFrom (List.mem_of_mem_filter (fits ▸ hv))
  have last : (u :: us).getLast? = some t := by rw [← ends, List.getLast?_concat]
  have parted (zs : List Token) :
      (us ++ zs).map (Except.ok : Token → Scanned) = us.map .ok ++ zs.map .ok := List.map_append
  have scans : (us ++ rest).map .ok ++ more = us.map .ok ++ (rest.map .ok ++ more) := by
    rw [parted, List.append_assoc]
  have breaking (faults : Array Token.Fault) :
      Breaking fault ⟨some u, faults, us.map .ok ++ (rest.map .ok ++ more), ending⟩ :=
    scans ▸ .mk kinds meets
  rw [tokens, earlyFrom, fits, List.map_cons, List.map_cons, parted (rest ++ late),
    List.cons_append, scans]
  refine ⟨(rest ++ late).map .ok, rest.map .ok ++ more, .finished (some (.atEnd file good)), ending,
    _, _, rfl, rfl, ?_, breaking _, by rwa [List.length_map]⟩
  exact .mk ⟨t, last, separator⟩ fun v hv => kinds v (List.mem_append_left rest hv)

/-- **What stands in front of a separator is not lost if the source breaks off behind it**, as
long as the separator is not the last character before that. Whatever a session on the text
alone does from any round on which comes to such a separator, a session on the source does
too: it is the same session in front, it takes the same statement, and at its end, which is
the fault, it has all that this made of it. -/
theorem interrupted_run (options : Options) (llvm : Llvm) (ascii : IsAscii good)
    (breaks : source.BreaksOff file good fault) {n : Nat} {s : Session} {f g : Feed} {m : Move}
    (here : after options llvm (.ofSource file (.ofList good)) n = some (s, f))
    (move : move? s.operators f = some (m, g)) (ahead : f.Onward k) (current : k.current = some t)
    (separator : t.isSymbol ";" = true) (early : t.endsBefore good.length = true) :
    (run options llvm (.ofSource file source)).fatal = some fault ∧
      ∃ l, after options llvm (.ofSource file source) n = some (s, l) ∧
        s.statement? l = m.statement? ∧
        Retains (s.make llvm m) (run options llvm (.ofSource file source)).session := by
  obtain ⟨a, b, x, y, f₀, g₀, first, second, shared, breaking, before⟩ :=
    exists_shared ascii breaks ((onward_after here).trans ahead) current separator early
  refine ⟨?_, ?_⟩
  · unfold run
    rw [second]
    dsimp only
    split
    · exact breaking.fatal llvm _
    · exact breaking.fatal llvm _
  · exact retains_shared first second shared (Feed.spelled_ofSource file source) here
      (Nat.lt_of_lt_of_le before ahead.size) move

/-- A number is evaluated although the source breaks off behind its separator and a blank. -/
theorem interrupted_run_of_foreign :
    (run {} (.within 9) (.ofSource "<stdin>" (.ofString "1; é"))).fatal =
        some (.foreign 'é' ⟨"<stdin>", 1, 4, 4⟩) ∧
      1 ≤ (run {} (.within 9) (.ofSource "<stdin>" (.ofString "1; é"))).session.results.size := by
  have ascii : IsAscii "1; ".toList := by decide
  have breaks : (Source.ofString "1; é").BreaksOff "<stdin>" "1; ".toList
      (.foreign 'é' (.behind "<stdin>" "1; ".toList)) := .foreign 'é' [] none (by decide)
  have evaluated : ((after {} (.within 9)
      (.ofSource "<stdin>" (.ofList "1; ".toList)) 0).any fun here =>
      (move? here.1.operators here.2).any fun next =>
        decide ((here.1.make (.within 9) next.1).results.size = 1) &&
          next.2.current.any fun t => t.isSymbol ";" && t.endsBefore 3) = true := by decide +kernel
  obtain ⟨⟨s, f⟩, here, evaluated⟩ := (Option.any_eq_true _ _).mp evaluated
  obtain ⟨⟨m, g⟩, move, evaluated⟩ := (Option.any_eq_true _ _).mp evaluated
  obtain ⟨results, separator⟩ := (Bool.and_eq_true _ _).mp evaluated
  obtain ⟨t, current, separator⟩ := (Option.any_eq_true _ _).mp separator
  obtain ⟨separator, early⟩ := (Bool.and_eq_true _ _).mp separator
  obtain ⟨fatal, l, -, -, retains⟩ := interrupted_run {} (.within 9) ascii breaks here move
    (onward_of_move? move) current separator early
  refine ⟨fatal, ?_⟩
  have grown := retains.results.length_le
  rwa [Array.length_toList, Array.length_toList, of_decide_eq_true results] at grown

/-- The separator must not be the last good character: then its statement is lost, although it
is carried out if the input ends there. -/
theorem interrupted_too_early :
    ((after {} (.within 9) (.ofSource "<stdin>" (.ofList "1;".toList)) 1).any fun here =>
        decide (here.1.results.size = 1) && here.2.current.any fun t =>
          t.isSymbol ";" && t.location.any fun l => decide (l.offset ≤ 2)) = true ∧
      (Source.ofString "1;é").BreaksOff "<stdin>" "1;".toList
        (.foreign 'é' (.behind "<stdin>" "1;".toList)) ∧
      (run {} (.within 9) (.ofSource "<stdin>" (.ofString "1;é"))).session.results.size = 0 := by
  exact ⟨by decide +kernel, .foreign 'é' [] none (by decide), by decide +kernel⟩

end

end Reckoner.Session

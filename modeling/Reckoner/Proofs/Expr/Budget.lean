import Reckoner.Proofs.Expr.Passage
import Reckoner.Proofs.Expr.Refusal
import Reckoner.Proofs.Token.Supply
import Reckoner.Proofs.Token.Words

/-! Parsing within a budget.

What a feed gives can be cut off: `Feed.within n` answers `n` requests as the feed does and
then none, with a fault that no source has. The parser is the same on such a feed, and stops at
that fault only if it makes more than `n` requests (`statementWithin`). As long as the budget
lasts, it moves on together with the parser on the feed itself. A request is made at a token
only and takes it from the supply, so a budget of as many requests as the feed has tokens is
never used up: within it the parser comes to what it comes to without any
(`statementWithin_eq`). -/
namespace Reckoner

namespace Feed
variable {ops : Operators} {f g : Feed}

/-- Requests at tokens that the grammar knows pass these, one after the other. -/
theorem Through.exists_passes (through : f.Through ops g) :
    ∃ ts, f.Passes ts g ∧ ∀ t ∈ ts, t.IsPassable ops := by
  induction through with
  | refl => exact ⟨[], .nil, List.forall_mem_nil _⟩
  | tail _ step ih =>
    obtain ⟨ts, passes, passable⟩ := ih
    obtain ⟨⟨t, current, here⟩, next⟩ := step
    refine ⟨ts ++ [t], passes_append_iff.mpr ⟨_, passes, passes_singleton_iff.mpr ⟨current, next⟩⟩, ?_⟩
    exact List.forall_mem_append.mpr ⟨passable, List.forall_mem_singleton.mpr here⟩

/-! ### Feeds that are cut off -/

/-- What the next request gives. -/
def answer (f : Feed) : Scanned :=
  match f.ahead with
  | scan :: _ => scan
  | [] =>
    match f.ending with
    | .finished place => .ok (.finish place)
    | .broken fault => .error fault

/-- What the next requests give. -/
def answers (f : Feed) : Nat → List Scanned
  | 0 => []
  | n + 1 => f.answer :: f.next.2.answers n

/-- The feed that answers `n` requests as `f` does, and none after them. -/
def within (n : Nat) (f : Feed) : Feed (Option Token.Fault) where
  current := f.current
  faults := f.faults
  ahead := (f.answers n).map (Except.mapError some)
  ending := .broken none

@[simp]
theorem length_answers (f : Feed) (n : Nat) : (f.answers n).length = n := by
  induction n generalizing f with
  | zero => rfl
  | succ n ih => rw [answers, List.length_cons, ih]

/-- What is ahead of a feed that is cut off is what is left of its budget. -/
@[simp]
theorem length_ahead_within (n : Nat) (f : Feed) : (f.within n).ahead.length = n := by
  rw [within, List.length_map, length_answers]

/-- A request takes one from the budget. -/
theorem next_within (n : Nat) (f : Feed) :
    (f.within (n + 1)).next = (f.next.1.map some, f.next.2.within n) := by
  obtain ⟨current, faults, ahead, ending⟩ := f
  rcases ahead with _ | ⟨fault | t, rest⟩
  · cases ending <;> rfl
  · rfl
  · rfl

end Feed

namespace Expr
variable {ops : Operators} {f g : Feed} {n : Nat}

/-- What a parse on a feed within `n` requests comes to on the feed itself, if it has not been
cut off. -/
def Outcome.ofWithin {α : Type} (n : Nat) (f : Feed) :
    Outcome α (Option Token.Fault) → Option (Outcome α)
  | found value g => some (.found value (f.behind (n - g.ahead.length)))
  | refused fault g => some (.refused fault (f.behind (n - g.ahead.length)))
  | stopped (.source none) _ => none
  | stopped (.source (some fault)) g =>
    some (.stopped (.source fault) (f.behind (n - g.ahead.length)))
  | stopped (.noToken wanted) g => some (.stopped (.noToken wanted) (f.behind (n - g.ahead.length)))

/-- The parser of statements that stops when it has made `n` requests and needs one more. -/
def statementWithin (ops : Operators) (n : Nat) (f : Feed) : Option (Outcome Expr) :=
  (statement ops (f.within n)).outcome.ofWithin n f

/-! ### The budget is enough -/

/-- The feed behind some of its requests, and the same within what is left of a budget that
began with `n` and is still enough for all tokens. -/
inductive Sparing (f : Feed) (n : Nat) : Feed (Option Token.Fault) → Feed → Prop where
  | mk {k m} : k + m = n → (f.behind k).supply.length ≤ m →
    Sparing f n ((f.behind k).within m) (f.behind k)

/-- The same fault of the source, with a budget that is not used up. -/
inductive Spared (f : Feed) (n : Nat) :
    Option Token.Fault → Feed (Option Token.Fault) → Token.Fault → Feed → Prop where
  | mk {k m fault} : k + m = n → Spared f n (some fault) ((f.behind k).within m) fault (f.behind k)

theorem Sparing.lockstep (ops : Operators) (f : Feed) (n : Nat) :
    Lockstep id ops (Sparing f n) (Spared f n) where
  current := by
    rintro _ _ ⟨-, -⟩
    rfl
  next := by
    rintro _ _ t ⟨spent, enough⟩ current passable
    rename_i k m
    have current : (f.behind k).current = some t := current
    cases m with
    | zero =>
      rw [Feed.supply_of_current current passable.more] at enough
      exact absurd enough (Nat.not_succ_le_zero _)
    | succ m =>
      have left : k + 1 + m = n := by omega
      have next' := Feed.next_within m (f.behind k)
      rw [Feed.next_behind] at next'
      cases next : (f.behind k).next with
      | mk fault g =>
        have behind : f.behind (k + 1) = g := by rw [← Feed.next_behind, next]
        rw [next] at next'
        subst behind
        cases fault with
        | none =>
          have less := Feed.length_supply_of_next current passable.more next
          exact .inl ⟨_, _, next', rfl, .mk left (by omega)⟩
        | some fault => exact .inr ⟨_, _, _, _, next', rfl, .mk left⟩

/-- Outcomes that are alike within a budget and without are the same one. -/
theorem Outcome.Alike.ofWithin_eq {x : Outcome Expr (Option Token.Fault)} {y : Outcome Expr}
    (alike : Alike id (Sparing f n) (Spared f n) (relocate id) x y) : x.ofWithin n f = some y := by
  have rest {k m : Nat} (spent : k + m = n) :
      f.behind (n - ((f.behind k).within m).ahead.length) = f.behind k := by
    rw [Feed.length_ahead_within, ← spent, Nat.add_sub_cancel]
  cases alike with
  | found same sparing =>
    obtain ⟨spent, -⟩ := sparing
    rw [relocate_id, relocate_id] at same
    rw [ofWithin, rest spent, same]
  | refused same sparing =>
    obtain ⟨spent, -⟩ := sparing
    rw [Fault.relocate_id, Fault.relocate_id] at same
    rw [ofWithin, rest spent, same]
  | stopped spared =>
    obtain ⟨spent⟩ := spared
    rw [ofWithin, rest spent]

/-- **A budget of all tokens is enough to parse a statement.** -/
theorem statementWithin_eq (enough : f.supply.length ≤ n) :
    statementWithin ops n f = some (statement ops f).outcome :=
  (statement_alike (Sparing.lockstep ops f n) (.mk (k := 0) (Nat.zero_add n) enough)).ofWithin_eq

/-- A parse passes tokens that are not the end of the input, no more than there are; if it stops
at a fault of the source, the last token in front of the fault is not the end either. -/
theorem statement_passes (ops : Operators) (f : Feed) :
    ∃ ts g, f.Passes ts g ∧ (∀ t ∈ ts, t.kind ≠ .endOfInput) ∧ ts.length ≤ f.supply.length ∧
      ((statement ops f).outcome.rest = g ∨ ∃ t fault, g.current = some t ∧ t.kind ≠ .endOfInput ∧
        g.next = (some fault, (statement ops f).outcome.rest)) := by
  have passes {g : Feed} (through : f.Through ops g) : ∃ ts, f.Passes ts g ∧
      (∀ t ∈ ts, t.kind ≠ .endOfInput) ∧ ts.length ≤ f.supply.length := by
    obtain ⟨ts, passes, passable⟩ := through.exists_passes
    have more : ∀ t ∈ ts, t.kind ≠ .endOfInput := fun t mem => (passable t mem).more
    refine ⟨ts, passes, more, ?_⟩
    rw [Feed.supply_of_passes passes more, List.length_append]
    exact Nat.le_add_right _ _
  have through := statement_through ops f
  generalize (statement ops f).outcome = x at through ⊢
  cases through with
  | found through | refused through _ =>
    obtain ⟨ts, passes, more, le⟩ := passes through
    exact ⟨ts, _, passes, more, le, .inl rfl⟩
  | stopped through here next =>
    obtain ⟨ts, passes, more, le⟩ := passes through
    obtain ⟨t, current, known⟩ := here
    exact ⟨ts, _, passes, more, le, .inr ⟨t, _, current, known.more, next⟩⟩

end Expr

end Reckoner

import Reckoner.Proofs.Token.Delivery

/-! The tokens that are still to be passed.

Whatever a source holds, a lexer gives finitely many tokens and then the end of the input or a
fault (`Lexer.Delivers`). A feed shows which these are (`Feed.supply`), and a request at one of
them takes exactly that one away (`Feed.supply_of_next`). So the length of the supply bounds
what can still be passed. A feed that has come to the end stays there, as no lexer gives
anything behind it (`Feed.Closes`). -/
namespace Reckoner

/-- The tokens that a lexer gives, one after the other, before the end of the input or a fault. -/
def Lexer.Delivers (l : Lexer) (ts : List Token) : Prop :=
  ∃ m, l.Gives ts m ∧ ∀ t n, m.next = (.ok t, n) → t.kind = .endOfInput

theorem Lexer.exists_delivers (l : Lexer) : ∃ ts, l.Delivers ts := by
  induction bound : l.scanner.remaining using Nat.strongRecOn generalizing l with
  | ind n ih =>
    subst bound
    by_cases last : ∀ t m, l.next = (.ok t, m) → t.kind = .endOfInput
    · exact ⟨[], l, .nil, last⟩
    · push Not at last
      obtain ⟨t, m, next, more⟩ := last
      obtain ⟨ts, k, gives, last⟩ := ih _ (remaining_next_lt next more) m rfl
      exact ⟨t :: ts, k, .cons next more gives, last⟩

namespace Feed
variable {f g : Feed} {t : Token} {ts : List Token}

/-- The tokens in front of the end of the input and of the first fault. -/
def tokensOf : List Scanned → List Token
  | .ok t :: rest => if t.kind = .endOfInput then [] else t :: tokensOf rest
  | _ => []

/-- The tokens that have not been passed: the current one and those ahead. -/
def supply (f : Feed) : List Token :=
  match f.current with
  | none => tokensOf f.ahead
  | some t => if t.kind = .endOfInput then [] else t :: tokensOf f.ahead

theorem supply_of_current (current : f.current = some t) (more : t.kind ≠ .endOfInput) :
    f.supply = t :: tokensOf f.ahead := by
  rw [supply, current]
  exact if_neg more

theorem supply_of_atEnd (ended : f.atEnd = true) : f.supply = [] := by
  obtain ⟨t, current, kind⟩ := (Option.any_eq_true _ _).mp ended
  rw [supply, current]
  exact if_pos (of_decide_eq_true kind)

theorem kind_of_atEnd (current : f.current = some t) (more : f.atEnd = false) :
    t.kind ≠ .endOfInput := by
  intro kind
  rw [atEnd, current, Option.any_some, kind, decide_eq_true rfl] at more
  cases more

theorem atEnd_of_kind (current : f.current = some t) (more : t.kind ≠ .endOfInput) :
    f.atEnd = false := by
  rw [atEnd, current]
  exact decide_eq_false more

/-- What comes behind the current token. -/
theorem tokensOf_of_next (next : f.next = (none, g)) : tokensOf f.ahead = g.supply := by
  unfold Feed.next at next
  split at next
  · rename_i t rest ahead
    cases next
    rw [ahead]
    rfl
  · cases next
  · rename_i ahead
    split at next
    · cases next
      rw [ahead]
      rfl
    · cases next

/-- A request at a token takes that token from the supply. -/
theorem supply_of_next (current : f.current = some t) (more : t.kind ≠ .endOfInput)
    (next : f.next = (none, g)) : f.supply = t :: g.supply := by
  rw [supply_of_current current more, tokensOf_of_next next]

/-- In front of a fault nothing comes behind the current token. -/
theorem tokensOf_of_fault {fault : Token.Fault} (next : f.next = (some fault, g)) :
    tokensOf f.ahead = [] := by
  unfold Feed.next at next
  split at next
  · cases next
  · rename_i ahead
    rw [ahead]
    rfl
  · rename_i ahead
    rw [ahead]
    rfl

theorem supply_of_fault {fault : Token.Fault} (current : f.current = some t)
    (more : t.kind ≠ .endOfInput) (next : f.next = (some fault, g)) : f.supply = [t] := by
  rw [supply_of_current current more, tokensOf_of_fault next]

theorem length_supply_of_next (current : f.current = some t) (more : t.kind ≠ .endOfInput)
    (next : f.next = (none, g)) : g.supply.length < f.supply.length := by
  rw [supply_of_next current more next]
  exact Nat.lt_succ_self _

/-- Tokens that are passed are taken from the supply. -/
theorem supply_of_passes (passes : f.Passes ts g) (more : ∀ t ∈ ts, t.kind ≠ .endOfInput) :
    f.supply = ts ++ g.supply := by
  induction passes with
  | nil => rfl
  | cons current next _ ih =>
    obtain ⟨here, later⟩ := List.forall_mem_cons.mp more
    rw [supply_of_next current here next, ih later, List.cons_append]

/-! ### The tokens of a source -/

theorem tokensOf_append (more : ∀ t ∈ ts, t.kind ≠ .endOfInput) (rest : List Scanned) :
    tokensOf (ts.map .ok ++ rest) = ts ++ tokensOf rest := by
  induction ts with
  | nil => rfl
  | cons t ts ih =>
    obtain ⟨here, later⟩ := List.forall_mem_cons.mp more
    rw [List.map_cons, List.cons_append, tokensOf, if_neg here, ih later, List.cons_append]

end Feed

theorem Scanner.Gives.more {s u : Scanner} {ts : List Token} (h : s.Gives ts u) :
    ∀ t ∈ ts, t.kind ≠ .endOfInput := by
  induction h with
  | nil => exact List.forall_mem_nil _
  | cons _ more _ ih => exact List.forall_mem_cons.mpr ⟨more, ih⟩

namespace Feed
variable {f g : Feed} {ts : List Token}

/-- **The supply of a feed of a lexer is what the lexer delivers.** -/
theorem tokensOf_ofLexer {l : Lexer} (h : l.Delivers ts) : tokensOf (ofLexer l).ahead = ts := by
  obtain ⟨m, gives, last⟩ := h
  have more := gives.scanner.more
  have front : ∃ rest ending, unroll [] l.scanner = (ts.map .ok ++ rest, ending) ∧
      tokensOf rest = [] := by
    rw [unroll_of_gives gives.scanner, List.append_nil]
    cases scan : Scanner.next m.scanner with
    | ok t u =>
      have ended := last t _ (by rw [Lexer.next, scan])
      rw [unroll_of_end scan ended, List.reverse_reverse]
      exact ⟨[], _, by rw [List.append_nil], rfl⟩
    | error fault u =>
      obtain ⟨rest, ending, scans, meets⟩ := unroll_of_fault scan (ts.map .ok).reverse
      rw [scans, List.reverse_reverse]
      exact ⟨rest, ending, rfl, by cases meets <;> rfl⟩
  obtain ⟨rest, ending, whole, none⟩ := front
  show tokensOf (unroll [] l.scanner).1 = ts
  rw [whole, tokensOf_append more, none, List.append_nil]

/-- The supply of a source is what its lexer delivers. -/
theorem delivers_supply (file : String) (source : Source) :
    (Lexer.ofSource file source).Delivers (ofSource file source).supply := by
  obtain ⟨ts, delivers⟩ := (Lexer.ofSource file source).exists_delivers
  have same : (ofSource file source).supply = ts := tokensOf_ofLexer delivers
  rwa [same]

/-! ### The end of the input -/

/-- A feed in which nothing comes behind the end of the input. -/
structure Closes (f : Feed) : Prop where
  ahead : ∀ t, .ok t ∈ f.ahead → t.kind ≠ .endOfInput
  ended : f.atEnd = true → f.ahead = []

theorem Closes.next (h : f.Closes) (next : f.next = (none, g)) : g.Closes := by
  unfold Feed.next at next
  split at next
  · rename_i t rest ahead
    have more := h.ahead
    rw [ahead] at more
    cases next
    refine ⟨fun u hu => more u (List.mem_cons_of_mem _ hu), fun ended => ?_⟩
    exact absurd (of_decide_eq_true ended) (more t List.mem_cons_self)
  · cases next
  · split at next
    · cases next
      exact ⟨nofun, fun _ => rfl⟩
    · cases next

/-- What is passed is taken from the supply, but for the end of the input, which is not in it. -/
theorem Closes.supply_of_passes (h : f.Closes) (passes : f.Passes ts g) :
    f.supply = ts.filter (·.kind ≠ .endOfInput) ++ g.supply := by
  induction passes with
  | nil => rfl
  | @cons f g k t ts current next _ ih =>
    have behind := ih (h.next next)
    by_cases ended : t.kind = .endOfInput
    · have last : f.atEnd = true := by rw [atEnd, current]; exact decide_eq_true ended
      have none : g.supply = [] := by rw [← tokensOf_of_next next, h.ended last]; rfl
      rw [List.filter_cons_of_neg (by simpa using ended), ← behind, none, supply_of_atEnd last]
    · rw [List.filter_cons_of_pos (by simpa using ended), List.cons_append, ← behind,
        supply_of_next current ended next]

theorem Closes.passes (h : f.Closes) (passes : f.Passes ts g) : g.Closes := by
  induction passes with
  | nil => exact h
  | cons _ next _ ih => exact ih (h.next next)

theorem more_of_mem_unroll {before : List Scanned} {s : Scanner}
    (h : ∀ t, .ok t ∈ before → t.kind ≠ .endOfInput) :
    ∀ t, .ok t ∈ (unroll before s).1 → t.kind ≠ .endOfInput := by
  fun_induction unroll before s with
  | case1 => exact fun t ht => h t (List.mem_reverse.mp ht)
  | case2 before s t u _ more _ ih =>
    refine ih fun k hk => ?_
    rcases List.mem_cons.mp hk with same | hk
    · cases same
      exact more
    · exact h k hk
  | case3 before s fault u _ _ ih =>
    refine ih fun k hk => ?_
    rcases List.mem_cons.mp hk with same | hk
    · cases same
    · exact h k hk
  | case4 => exact fun t ht => h t (List.mem_reverse.mp ht)

theorem closes_ofSource (file : String) (source : Source) : (ofSource file source).Closes where
  ahead := more_of_mem_unroll fun t ht => by cases ht
  ended := nofun

end Feed

end Reckoner

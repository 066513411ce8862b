import Reckoner.Token.Lexer

/-! The tokens ahead.

Scanning depends on the source alone, not on who asks for tokens when. A feed is
a lexer unrolled: its current token and what every further request will give,
first the scans in `ahead` and then the same answer for ever, which is the end of
the input or a fault that recurs. Parsing is a function on feeds, and it ends
because moving past a token other than the end of the input leaves a smaller
feed (`size_next_lt`).

A request that gives no token tells why. With a lexer this is a fault of its source;
parsing does not depend on what it is. -/
namespace Reckoner

/-- What one request for a token gives. -/
abbrev Scanned (ε : Type := Token.Fault) := Except ε Token

namespace Feed

/-- What every request gives once a source is used up. -/
inductive Ending (ε : Type := Token.Fault) where
  | finished (place : Option Location)
  | broken (fault : ε)
deriving Repr, DecidableEq

end Feed

structure Feed (ε : Type := Token.Fault) where
  current : Option Token := none
  /-- The faults of the malformed numerals passed so far. -/
  faults : Array Token.Fault := #[]
  ahead : List (Scanned ε) := []
  ending : Feed.Ending ε := .finished none

namespace Feed
variable {ε : Type}

/-- The current token is the end of the input. -/
def atEnd (f : Feed ε) : Bool :=
  f.current.any (·.kind = .endOfInput)

/-- A bound on what is left. It is zero at the end of the input with nothing
ahead, and odd if the current token is not the end of the input. -/
def size (f : Feed ε) : Nat :=
  2 * f.ahead.length + (!f.atEnd).toNat

/-- Makes a token current, with the scans behind it. -/
def take (f : Feed ε) (t : Token) (ahead : List (Scanned ε)) : Feed ε :=
  { f with current := some t, faults := f.faults ++ t.fault?.toArray, ahead }

/-- Asks for the next token. A fault leaves the current token as it was. -/
def next (f : Feed ε) : Option ε × Feed ε :=
  match f.ahead with
  | .ok t :: rest => (none, f.take t rest)
  | .error fault :: rest => (some fault, { f with ahead := rest })
  | [] =>
    match f.ending with
    | .finished place => (none, f.take (Token.finish place) [])
    | .broken fault => (some fault, f)

theorem size_take_le (f : Feed ε) (t : Token) (ahead : List (Scanned ε)) :
    (f.take t ahead).size ≤ 2 * ahead.length + 1 := by
  have := Bool.toNat_le (!(f.take t ahead).atEnd)
  simp only [size, take] at *
  omega

theorem size_take_finish (f : Feed ε) (place : Option Location) (ahead : List (Scanned ε)) :
    (f.take (Token.finish place) ahead).size = 2 * ahead.length := by
  simp [size, take, atEnd, Token.finish]

/-- Moving on never leaves a larger feed. -/
theorem size_next_le {f g : Feed ε} (h : f.next = (none, g)) : g.size ≤ f.size := by
  unfold next at h
  split at h
  · rename_i t rest ahead
    cases h
    have := f.size_take_le t rest
    simp only [size, ahead, List.length_cons] at *
    omega
  · cases h
  · split at h
    · cases h
      rw [size_take_finish]
      exact Nat.zero_le _
    · cases h

/-- Moving past a token other than the end of the input leaves a smaller feed. -/
theorem size_next_lt {f g : Feed ε} (h : f.next = (none, g)) (more : f.atEnd = false) :
    g.size < f.size := by
  unfold next at h
  split at h
  · rename_i t rest ahead
    cases h
    refine Nat.lt_of_le_of_lt (f.size_take_le t rest) ?_
    simp only [size, ahead, List.length_cons]
    omega
  · cases h
  · split at h
    · cases h
      rw [size_take_finish]
      simp [size, more]
    · cases h

/-- A feed that is not at the end of the input is not used up. -/
theorem size_pos {f : Feed ε} (more : f.atEnd = false) : 0 < f.size := by
  simp [size, more]

/-- Moving on leaves a smaller feed, or one that is used up. -/
theorem size_next_lt_or {f g : Feed ε} (h : f.next = (none, g)) : g.size < f.size ∨ g.size = 0 := by
  unfold next at h
  split at h
  · rename_i t rest ahead
    cases h
    refine .inl (Nat.lt_of_le_of_lt (f.size_take_le t rest) ?_)
    simp only [size, ahead, List.length_cons]
    omega
  · cases h
  · split at h
    · cases h
      exact .inr (f.size_take_finish _ _)
    · cases h

/-- The scans of a scanner after those in `before`, which are in reverse, and what
follows them. A fault that uses up nothing recurs. -/
def unroll (before : List Scanned) (s : Scanner) : List Scanned × Ending :=
  match h : Scanner.next s with
  | .ok t u =>
    if more : t.kind = .endOfInput then (before.reverse, .finished t.location)
    else
      have := Scanner.remaining_next_lt h more
      unroll (.ok t :: before) u
  | .error fault u =>
    if u.remaining < s.remaining then unroll (.error fault :: before) u
    else (before.reverse, .broken fault)
termination_by s.remaining

/-- The tokens ahead of a lexer. -/
def ofLexer (l : Lexer) : Feed :=
  let (ahead, ending) := unroll [] l.scanner
  { current := l.current, faults := l.faults, ahead, ending }

/-- The tokens of a named source, none of them current yet. -/
def ofSource (file : String) (source : Source) : Feed :=
  ofLexer (.ofSource file source)

end Feed

end Reckoner

/-! Names within a function.

Parameters, blocks and results of one function share a scope. A name that is in
use gets a number: the next one, counted per name, that makes it new. Names stay
in use for good. `fresh_not_mem` says that a fresh name was not in use, and
`mem_used_fresh` that afterwards exactly it is in use besides the others. -/
namespace Reckoner.IR

structure Scope where
  used : List String := [""]
  /-- The last number given out for a name. -/
  counters : List (String × Nat) := []
deriving Repr, DecidableEq

namespace Scope

/-- A name with a number behind it. -/
def numbered (base : String) (n : Nat) : String :=
  s!"{base}.{n}"

/-- The last number given out for a name, or zero. -/
def counter (s : Scope) (base : String) : Nat :=
  (s.counters.lookup base).getD 0

/-- The first number after `n` whose name is not in use, trying so many. -/
def nextNumber (s : Scope) (base : String) (n : Nat) : Nat → Nat
  | 0 => n + 1
  | tries + 1 =>
    if numbered base (n + 1) ∈ s.used then s.nextNumber base (n + 1) tries else n + 1

/-- A name not in use made from `base`, and the scope in which it is. Of more
numbers than names in use, one makes a new name. -/
def fresh (s : Scope) (base : String) : String × Scope :=
  if base ∈ s.used then
    let n := s.nextNumber base (s.counter base) s.used.length
    (numbered base n,
      { used := numbered base n :: s.used
        counters := (base, n) :: s.counters.filter (·.1 ≠ base) })
  else (base, { s with used := base :: s.used })

/-- The fresh name is in use afterwards, and no other name is new. -/
theorem mem_used_fresh (s : Scope) (base x : String) :
    x ∈ (s.fresh base).2.used ↔ x = (s.fresh base).1 ∨ x ∈ s.used := by
  unfold fresh
  split <;> simp

/-- A name that is not in use is its own fresh name. -/
theorem fresh_of_not_mem {s : Scope} {base : String} (h : base ∉ s.used) :
    (s.fresh base).1 = base := by
  simp [fresh, h]

end Scope

end Reckoner.IR

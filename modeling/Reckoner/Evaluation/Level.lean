/-! Optimization levels.

At a level other than the lowest the code generator is asked to improve each function
of a module before the module is looked at and run. -/
namespace Reckoner.Evaluation

inductive Level where
  | none
  | basic
  | standard
  | aggressive
deriving Repr, DecidableEq

namespace Level

def all : List Level := [none, basic, standard, aggressive]

def toNat : Level → Nat
  | none => 0
  | basic => 1
  | standard => 2
  | aggressive => 3

def name (l : Level) : String :=
  s!"O{l.toNat}"

/-- A number that is no level. -/
structure Invalid where
  number : Int
deriving Repr, DecidableEq

def Invalid.message (i : Invalid) : String :=
  s!"{i.number} is not a valid OptimizationLevel"

def ofInt (n : Int) : Except Invalid Level :=
  match all.find? fun l => (l.toNat : Int) = n with
  | some l => .ok l
  | Option.none => .error ⟨n⟩

theorem ofInt_toNat (l : Level) : ofInt l.toNat = .ok l := by
  cases l <;> rfl

theorem toNat_of_ofInt {n : Int} {l : Level} (h : ofInt n = .ok l) : (l.toNat : Int) = n := by
  unfold ofInt at h
  split at h
  · cases h
    rename_i found
    have holds := List.find?_some found
    exact of_decide_eq_true holds
  · cases h

end Level

end Reckoner.Evaluation

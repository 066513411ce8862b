import Reckoner.Text.Quoted

/-! Binary operators and their precedence.

A table gives single characters a precedence; a larger one binds tighter. The
table keeps the order in which operators were first registered. -/
namespace Reckoner

/-- Registered operators with their precedences, in order of registration. -/
structure Operators where
  entries : List (Char × Nat) := []
deriving Repr, DecidableEq

namespace Operators

/-- Why an operator is not registered. -/
inductive Refusal where
  | notOneCharacter (operator : String)
  | negativePrecedence (precedence : Int)
deriving Repr, DecidableEq

def Refusal.message : Refusal → String
  | notOneCharacter operator => s!"Operators are single characters, got {Text.quoted operator}"
  | negativePrecedence precedence => s!"Precedence must be greater than -1, got {precedence}"

def empty : Operators := {}

/-- The precedence of one character, if registered. -/
def find? (t : Operators) (c : Char) : Option Nat :=
  t.entries.lookup c

/-- Changes the precedence of a registered character in place, or adds the
character at the end. -/
def insert (t : Operators) (c : Char) (precedence : Nat) : Operators :=
  if t.entries.any (·.1 = c) then
    ⟨t.entries.map fun e => if e.1 = c then (c, precedence) else e⟩
  else ⟨t.entries ++ [(c, precedence)]⟩

/-- Registers an operator: one character, with a precedence that is not negative. -/
def register (t : Operators) (operator : String) (precedence : Int) : Except Refusal Operators :=
  match operator.toList with
  | [c] =>
    if precedence < 0 then .error (.negativePrecedence precedence)
    else .ok (t.insert c precedence.toNat)
  | _ => .error (.notOneCharacter operator)

/-- A table from its registrations in order. -/
def ofList (entries : List (String × Int)) : Except Refusal Operators :=
  entries.foldlM (fun t e => t.register e.1 e.2) empty

/-- The operators that every session starts with. -/
def standard : Operators :=
  ⟨[('<', 10), ('+', 20), ('-', 30), ('*', 40)]⟩

/-- The precedence of a text, if it is a registered operator. -/
def lookup (t : Operators) (operator : String) : Option Nat :=
  match operator.toList with
  | [c] => t.find? c
  | _ => none

/-- The precedence of a text, below every registered one if it is no operator. -/
def precedence (t : Operators) (operator : String) : Int :=
  match t.lookup operator with
  | some p => p
  | none => -1

def contains (t : Operators) (operator : String) : Bool :=
  (t.lookup operator).isSome

def size (t : Operators) : Nat :=
  t.entries.length

/-- The table as text. -/
def describe (t : Operators) : String :=
  let entry (e : Char × Nat) := s!"{Text.quoted (String.singleton e.1)}: {e.2}"
  "OperatorTable(\x7b" ++ ", ".intercalate (t.entries.map entry) ++ "\x7d)"

theorem find?_insert_self (t : Operators) (c : Char) (p : Nat) :
    (t.insert c p).find? c = some p := by
  unfold insert find?
  split
  · rename_i h
    obtain ⟨e, mem, same⟩ := List.any_eq_true.1 h
    simp only [decide_eq_true_eq] at same
    clear h
    generalize t.entries = es at mem
    induction es with
    | nil => cases mem
    | cons d rest ih =>
      obtain ⟨a, q⟩ := d
      by_cases ha : a = c
      · simp [ha]
      · have : e ∈ rest := by
          rcases List.mem_cons.1 mem with rfl | h
          · exact absurd same ha
          · exact h
        have ne : (c == a) = false := beq_eq_false_iff_ne.2 (Ne.symm ha)
        simpa [ha, List.lookup_cons, ne] using ih this
  · rename_i h
    generalize t.entries = es at h
    induction es with
    | nil => simp
    | cons d rest ih =>
      obtain ⟨a, q⟩ := d
      have ne : (c == a) = false := by
        simp only [List.any_cons, Bool.or_eq_true, decide_eq_true_eq, not_or] at h
        exact beq_eq_false_iff_ne.2 (Ne.symm h.1)
      have tail : ¬(rest.any fun x => decide (x.1 = c)) = true := by
        simp only [List.any_cons, Bool.or_eq_true, not_or] at h
        exact h.2
      simpa [List.lookup_cons, ne] using ih tail

end Operators

end Reckoner

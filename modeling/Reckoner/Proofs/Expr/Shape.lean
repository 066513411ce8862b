import Reckoner.Expr

/-! The shape of the trees that are statements.

Not every tree is one that a text stands for. In a statement, prototypes and
functions are at the top only, and names are made of letters and digits, but for
the reserved name of a function that stands for a bare expression. No name of a
statement can be that reserved one, as it has a stroke in it. -/
namespace Reckoner

/-- A name that a text can spell. -/
structure IsIdentifier (name : String) : Prop where
  nonempty : name ≠ ""
  alphanum : ∀ c ∈ name.toList, c.isAlphanum = true

theorem isIdentifier_iff {name : String} :
    IsIdentifier name ↔ name ≠ "" ∧ name.toList.all Char.isAlphanum = true :=
  ⟨fun h => ⟨h.nonempty, List.all_eq_true.mpr h.alphanum⟩,
    fun h => ⟨h.1, List.all_eq_true.mp h.2⟩⟩

instance (name : String) : Decidable (IsIdentifier name) :=
  decidable_of_iff _ isIdentifier_iff.symm

theorem IsIdentifier.ne_anonymous {name : String} (h : IsIdentifier name) :
    name ≠ anonymousName := by
  rintro rfl
  have stroke := h.alphanum '_' (by decide)
  simp at stroke

namespace Expr

mutual

/-- An expression without prototypes and functions in it. -/
def IsTerm : Expr → Prop
  | number _ _ => True
  | var name _ => IsIdentifier name
  | binary _ lhs rhs _ => lhs.IsTerm ∧ rhs.IsTerm
  | call callee args _ => IsIdentifier callee ∧ AreTerms args
  | conditional condition consequence alternative _ =>
    condition.IsTerm ∧ consequence.IsTerm ∧ alternative.IsTerm
  | prototype _ | function _ _ _ => False

def AreTerms : List Expr → Prop
  | [] => True
  | e :: rest => e.IsTerm ∧ AreTerms rest

end

mutual

/-- An expression without prototypes and functions in it, under whatever names. -/
def IsBody : Expr → Prop
  | number _ _ | var _ _ => True
  | binary _ lhs rhs _ => lhs.IsBody ∧ rhs.IsBody
  | call _ args _ => AreBodies args
  | conditional condition consequence alternative _ =>
    condition.IsBody ∧ consequence.IsBody ∧ alternative.IsBody
  | prototype _ | function _ _ _ => False

def AreBodies : List Expr → Prop
  | [] => True
  | e :: rest => e.IsBody ∧ AreBodies rest

end

mutual

theorem IsTerm.isBody : {e : Expr} → e.IsTerm → e.IsBody
  | number _ _, _ | var _ _, _ => trivial
  | binary _ _ _ _, h => ⟨h.1.isBody, h.2.isBody⟩
  | call _ _ _, h => h.2.areBodies
  | conditional _ _ _ _, h => ⟨h.1.isBody, h.2.1.isBody, h.2.2.isBody⟩

theorem AreTerms.areBodies : {es : List Expr} → AreTerms es → AreBodies es
  | [], _ => trivial
  | _ :: _, h => ⟨h.1.isBody, h.2.areBodies⟩

end

/-- A prototype with names that a text can spell. -/
structure IsSignature (p : Prototype) : Prop where
  name : IsIdentifier p.name
  params : ∀ x ∈ p.params, IsIdentifier x

theorem isSignature_iff {p : Prototype} :
    IsSignature p ↔ IsIdentifier p.name ∧ ∀ x ∈ p.params, IsIdentifier x :=
  ⟨fun h => ⟨h.name, h.params⟩, fun h => ⟨h.1, h.2⟩⟩

instance (p : Prototype) : Decidable (IsSignature p) :=
  decidable_of_iff _ isSignature_iff.symm

/-- A declaration, a definition or a bare expression. -/
inductive IsStatement : Expr → Prop where
  | declaration {p : Prototype} : IsSignature p → IsStatement (.prototype p)
  | definition {p : Prototype} {body : Expr} {l : Option Location} :
    IsSignature p → body.IsTerm → IsStatement (.function p body l)
  | bare {body : Expr} : body.IsTerm → IsStatement (.anonymous body)

end Expr

/-! ### Programs -/

/-- A function as a tree defines it. -/
structure Definition where
  name : String
  params : List String
  body : Expr
deriving Repr

/-- The definitions that a session has taken so far, in their order. -/
abbrev Program := List Definition

/-- The definitions but for those of a given name. -/
def Program.without (P : Program) (name : String) : Program :=
  P.filter (·.name ≠ name)

end Reckoner

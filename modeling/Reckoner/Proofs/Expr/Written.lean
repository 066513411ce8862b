import Reckoner.Proofs.Expr.Grammar
import Reckoner.Proofs.Token.Words

/-! What constructs of a source are made of.

The tokens that derive a construct are tokens of words if they come from a source. So its names
and operators are words too, and they are read as what they are (`IsName`, `IsSign`). The trees
of such a construct are `IsWritten`; this is kept by grouping, and it goes for everything that
the grammar derives from a source (`written_of_statement`). -/
namespace Reckoner

/-- A name that a source can have: it is read as a name. -/
structure IsName (n : String) : Prop where
  word : IsWord n.toList
  ascii : IsAscii n.toList
  read : (Token.ofSpelling n.toList).name? = some n

/-- The reserved name of a bare expression is none. -/
theorem IsName.ne_anonymous {n : String} (h : IsName n) : n ≠ anonymousName := by
  rintro rfl
  have other : (Token.ofSpelling anonymousName.toList).name? = none := by decide
  cases other.symm.trans h.read

/-- A symbol that a source can have: it is read as a symbol. -/
structure IsSign (s : String) : Prop where
  word : IsWord s.toList
  ascii : IsAscii s.toList
  read : (Token.ofSpelling s.toList).symbol? = some s

namespace Token
variable {w : List Char} {place : Location} {t : Token} {n s : String}

/-- A token that has a text has it from its word. -/
theorem text_ofWord (h : (ofWord w place).value = some (.text s)) : s = String.ofList w := by
  unfold ofWord ofFigures at h
  split at h
  · cases h
  · split at h
    · split at h <;> cases h
      rfl
    · split at h
      · dsimp only at h
        split at h <;> cases h
      · cases h
        rfl

theorem value_of_name? (h : t.name? = some n) : t.value = some (.text n) := by
  unfold name? at h
  split at h <;> cases h
  assumption

theorem value_of_symbol? (h : t.symbol? = some s) : t.value = some (.text s) := by
  unfold symbol? at h
  split at h <;> cases h
  assumption

theorem IsScanned.isName (h : t.IsScanned) (name : t.name? = some n) : IsName n := by
  cases h with
  | finish => cases name
  | @word w place word ascii =>
    obtain rfl := text_ofWord (value_of_name? name)
    have same : ofSpelling w = (ofWord w place).relocate fun _ => none := relocate_ofWord w _ place
    refine ⟨?_, ?_, ?_⟩ <;> rw [String.toList_ofList]
    · exact word
    · exact ascii
    · exact (congrArg name? same).trans name

theorem IsScanned.isSign (h : t.IsScanned) (symbol : t.symbol? = some s) : IsSign s := by
  cases h with
  | finish => cases symbol
  | @word w place word ascii =>
    obtain rfl := text_ofWord (value_of_symbol? symbol)
    have same : ofSpelling w = (ofWord w place).relocate fun _ => none := relocate_ofWord w _ place
    refine ⟨?_, ?_, ?_⟩ <;> rw [String.toList_ofList]
    · exact word
    · exact ascii
    · exact (congrArg symbol? same).trans symbol

end Token

namespace Expr

/-! ### The parts of a tree -/

mutual

/-- The numbers in a construct. -/
def numbers : Expr → List Double
  | number x _ => [x]
  | var _ _ | prototype _ => []
  | binary _ lhs rhs _ => lhs.numbers ++ rhs.numbers
  | call _ args _ => numbersOf args
  | conditional condition consequence alternative _ =>
    condition.numbers ++ consequence.numbers ++ alternative.numbers
  | function _ body _ => body.numbers

def numbersOf : List Expr → List Double
  | [] => []
  | e :: rest => e.numbers ++ numbersOf rest

end

mutual

/-- The operators in a construct. -/
def operators : Expr → List String
  | number _ _ | var _ _ | prototype _ => []
  | binary operator lhs rhs _ => operator :: (lhs.operators ++ rhs.operators)
  | call _ args _ => operatorsOf args
  | conditional condition consequence alternative _ =>
    condition.operators ++ consequence.operators ++ alternative.operators
  | function _ body _ => body.operators

def operatorsOf : List Expr → List String
  | [] => []
  | e :: rest => e.operators ++ operatorsOf rest

end

mutual

/-- An expression that a source can have. -/
def IsWritten : Expr → Prop
  | number x _ => x.marked = false
  | var n _ => IsName n
  | binary operator lhs rhs _ => IsSign operator ∧ lhs.IsWritten ∧ rhs.IsWritten
  | call callee args _ => IsName callee ∧ AreWritten args
  | conditional condition consequence alternative _ =>
    condition.IsWritten ∧ consequence.IsWritten ∧ alternative.IsWritten
  | prototype _ | function _ _ _ => False

def AreWritten : List Expr → Prop
  | [] => True
  | e :: rest => e.IsWritten ∧ AreWritten rest

end

/-- A prototype that a source can have. -/
structure IsNamed (p : Prototype) : Prop where
  name : IsName p.name
  params : ∀ x ∈ p.params, IsName x

/-! ### Derivations -/

/-- A link that a source can have. -/
structure Link.IsWritten (x : Link) : Prop where
  operator : IsSign x.operator
  operand : x.operand.IsWritten

theorem written_group {first : Expr} {chain : List Link} (head : first.IsWritten)
    (links : ∀ x ∈ chain, x.IsWritten) : (group first chain).IsWritten := by
  fun_induction group first chain with
  | case1 => exact head
  | case2 first chain before x behind found _ ih₁ ih₂ =>
    rw [eq_append_of_loosest? found] at links
    obtain ⟨left, middle⟩ := List.forall_mem_append.mp links
    obtain ⟨here, right⟩ := List.forall_mem_cons.mp middle
    exact ⟨here.operator, ih₁ head left, ih₂ here.operand right⟩

section
variable {ops : Operators}

mutual

theorem written_of_primary {ts : List Token} {e : Expr} :
    DerivesPrimary ops ts e → (∀ t ∈ ts, t.IsScanned) → e.IsWritten
  | .number _, _ => rfl
  | .var name, scanned => (scanned _ List.mem_cons_self).isName name
  | .call name _ _, scanned => ⟨(scanned _ List.mem_cons_self).isName name, trivial⟩
  | .callWith name _ args _, scanned => by
    obtain ⟨first, scanned⟩ := List.forall_mem_cons.mp scanned
    obtain ⟨-, scanned⟩ := List.forall_mem_cons.mp scanned
    exact ⟨first.isName name, written_of_arguments args (List.forall_mem_append.mp scanned).1⟩
  | .parentheses _ inner _, scanned => by
    obtain ⟨-, scanned⟩ := List.forall_mem_cons.mp scanned
    exact written_of_expression inner (List.forall_mem_append.mp scanned).1
  | .conditional _ first _ second _ third, scanned => by
    obtain ⟨-, scanned⟩ := List.forall_mem_cons.mp scanned
    obtain ⟨scanned₁, scanned⟩ := List.forall_mem_append.mp scanned
    obtain ⟨-, scanned⟩ := List.forall_mem_cons.mp scanned
    obtain ⟨scanned₂, scanned⟩ := List.forall_mem_append.mp scanned
    obtain ⟨-, scanned₃⟩ := List.forall_mem_cons.mp scanned
    exact ⟨written_of_expression first scanned₁, written_of_expression second scanned₂,
      written_of_expression third scanned₃⟩

theorem written_of_arguments {ts : List Token} {es : List Expr} :
    DerivesArguments ops ts es → (∀ t ∈ ts, t.IsScanned) → AreWritten es
  | .last only, scanned => ⟨written_of_expression only scanned, trivial⟩
  | .more first _ others, scanned => by
    obtain ⟨here, scanned⟩ := List.forall_mem_append.mp scanned
    obtain ⟨-, scanned⟩ := List.forall_mem_cons.mp scanned
    exact ⟨written_of_expression first here, written_of_arguments others scanned⟩

theorem written_of_chain {us : List Token} {chain : List Link} :
    DerivesChain ops us chain → (∀ t ∈ us, t.IsScanned) → ∀ x ∈ chain, x.IsWritten
  | .nil, _ => List.forall_mem_nil _
  | .cons operator operand _ others, scanned => by
    obtain ⟨first, scanned⟩ := List.forall_mem_cons.mp scanned
    obtain ⟨here, scanned⟩ := List.forall_mem_append.mp scanned
    exact List.forall_mem_cons.mpr ⟨⟨first.isSign operator.symbol, written_of_primary operand here⟩,
      written_of_chain others scanned⟩

/-- **What a source says can be written.** -/
theorem written_of_expression {ts : List Token} {e : Expr} :
    DerivesExpression ops ts e → (∀ t ∈ ts, t.IsScanned) → e.IsWritten
  | .chain first _ others, scanned => by
    obtain ⟨here, scanned⟩ := List.forall_mem_append.mp scanned
    exact written_group (written_of_primary first here) (written_of_chain others scanned)

end

theorem named_of_parameters {ts : List Token} {ps : List String} (h : DerivesParameters ts ps)
    (scanned : ∀ t ∈ ts, t.IsScanned) : ∀ x ∈ ps, IsName x := by
  induction h with
  | none => exact List.forall_mem_nil _
  | last name => exact List.forall_mem_singleton.mpr ((scanned _ List.mem_cons_self).isName name)
  | more name _ _ ih =>
    obtain ⟨first, scanned⟩ := List.forall_mem_cons.mp scanned
    obtain ⟨-, scanned⟩ := List.forall_mem_cons.mp scanned
    exact List.forall_mem_cons.mpr ⟨first.isName name, ih scanned⟩

theorem named_of_signature {ts : List Token} {p : Prototype} (h : DerivesSignature ts p)
    (scanned : ∀ t ∈ ts, t.IsScanned) : IsNamed p := by
  cases h with
  | parameters name _ params _ =>
    obtain ⟨first, scanned⟩ := List.forall_mem_cons.mp scanned
    obtain ⟨-, scanned⟩ := List.forall_mem_cons.mp scanned
    exact ⟨first.isName name, named_of_parameters params (List.forall_mem_append.mp scanned).1⟩

/-- A statement that a source can have. -/
inductive IsWrittenStatement : Expr → Prop where
  | declaration {p} : IsNamed p → IsWrittenStatement (.prototype p)
  | definition {p body l} : IsNamed p → body.IsWritten → IsWrittenStatement (.function p body l)
  | bare {body} : body.IsWritten → IsWrittenStatement (.anonymous body)

theorem written_of_statement {ts : List Token} {e : Expr} (h : DerivesStatement ops ts e)
    (scanned : ∀ t ∈ ts, t.IsScanned) : IsWrittenStatement e := by
  cases h with
  | definition _ head body =>
    obtain ⟨-, scanned⟩ := List.forall_mem_cons.mp scanned
    obtain ⟨here, scanned⟩ := List.forall_mem_append.mp scanned
    exact .definition (named_of_signature head here) (written_of_expression body scanned)
  | declaration _ head =>
    exact .declaration (named_of_signature head (List.forall_mem_cons.mp scanned).2)
  | bare body => exact .bare (written_of_expression body scanned)

end

end Expr

end Reckoner

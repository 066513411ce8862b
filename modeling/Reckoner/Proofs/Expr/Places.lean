import Reckoner.Proofs.Expr.Recognition

/-! Parsing and the places of tokens.

The parser puts places into its trees and faults but never looks at them, and it looks at a
token only while that token is current. So what two feeds give differs no more than their
tokens do. The relation between the feeds is left open: it has to make the current tokens
equal up to their places, and to hold behind them if the parser can move past them
(`Lockstep`). Tokens that the grammar does not know are not passed, and nothing is asked of
the feeds behind one. Where a request gives no token on either feed, both parses stop, and
what they stop for is as alike as the faults of the feeds are. -/
namespace Reckoner
variable {ε δ : Type}

section
variable (φ : Option Location → Option Location)

/-- The token with its place changed. -/
def Token.relocate (t : Token) : Token :=
  { t with location := φ t.location }

def Prototype.relocate (p : Prototype) : Prototype :=
  { p with location := φ p.location }

namespace Expr

mutual

/-- The tree with all its places changed. -/
def relocate : Expr → Expr
  | number value l => number value (φ l)
  | var name l => var name (φ l)
  | binary operator lhs rhs l => binary operator (relocate lhs) (relocate rhs) (φ l)
  | call callee args l => call callee (relocateAll args) (φ l)
  | conditional x y z l => conditional (relocate x) (relocate y) (relocate z) (φ l)
  | prototype p => prototype (p.relocate φ)
  | function p body l => function (p.relocate φ) (relocate body) (φ l)

def relocateAll : List Expr → List Expr
  | [] => []
  | e :: rest => relocate e :: relocateAll rest

end

theorem relocateAll_eq_map (es : List Expr) : relocateAll φ es = es.map (relocate φ) := by
  induction es with
  | nil => rfl
  | cons e rest ih => rw [relocateAll, ih, List.map_cons]

@[simp]
theorem location_relocate (e : Expr) : (e.relocate φ).location = φ e.location := by
  cases e <;> rfl

theorem relocate_anonymous (e : Expr) : (anonymous e).relocate φ = anonymous (e.relocate φ) := by
  simp [anonymous, relocate, Prototype.relocate]

def Fault.relocate (x : Fault) : Fault :=
  { x with found := x.found.map (Token.relocate φ) }

end Expr

end

/-- The tree without its places. -/
def Expr.unplaced (e : Expr) : Expr :=
  e.relocate fun _ => none

mutual

theorem Expr.relocate_id : (e : Expr) → e.relocate id = e
  | .number _ _ | .var _ _ | .prototype _ => rfl
  | .binary _ lhs rhs _ => by rw [relocate, relocate_id lhs, relocate_id rhs, id]
  | .call _ args _ => by rw [relocate, relocateAll_id args, id]
  | .conditional x y z _ => by rw [relocate, relocate_id x, relocate_id y, relocate_id z, id]
  | .function p body _ => by
    rw [relocate, relocate_id body, id]
    rfl

theorem Expr.relocateAll_id : (es : List Expr) → relocateAll id es = es
  | [] => rfl
  | e :: rest => by rw [relocateAll, relocate_id e, relocateAll_id rest]

end

mutual

theorem Expr.relocate_relocate (φ ψ : Option Location → Option Location) :
    (e : Expr) → (e.relocate φ).relocate ψ = e.relocate (ψ ∘ φ)
  | .number _ _ | .var _ _ | .prototype _ => rfl
  | .binary _ lhs rhs _ => by
    simp only [relocate, relocate_relocate φ ψ lhs, relocate_relocate φ ψ rhs, Function.comp_apply]
  | .call _ args _ => by
    simp only [relocate, relocateAll_relocateAll φ ψ args, Function.comp_apply]
  | .conditional x y z _ => by
    simp only [relocate, relocate_relocate φ ψ x, relocate_relocate φ ψ y, relocate_relocate φ ψ z,
      Function.comp_apply]
  | .function p body _ => by
    simp only [relocate, relocate_relocate φ ψ body, Function.comp_apply]
    rfl

theorem Expr.relocateAll_relocateAll (φ ψ : Option Location → Option Location) :
    (es : List Expr) → relocateAll ψ (relocateAll φ es) = relocateAll (ψ ∘ φ) es
  | [] => rfl
  | e :: rest => by
    simp only [relocateAll, relocate_relocate φ ψ e, relocateAll_relocateAll φ ψ rest]

end

theorem Token.relocate_id (t : Token) : t.relocate id = t := rfl

theorem Expr.Fault.relocate_id (x : Fault) : x.relocate id = x := by
  obtain ⟨expected, found⟩ := x
  cases found <;> rfl

/-- What a fault says does not depend on places. -/
theorem Expr.Fault.message_relocate (φ : Option Location → Option Location) (x : Fault) :
    (x.relocate φ).message = x.message := by
  obtain ⟨expected, found⟩ := x
  cases found <;> rfl

/-- A token that the grammar knows, so that the parser may move past it. -/
def Token.IsPassable (ops : Operators) (t : Token) : Prop :=
  match t.symbol? with
  | some s => s = "(" ∨ s = ")" ∨ s = "," ∨ (ops.lookup s).isSome = true
  | none => t.kind ≠ .endOfInput

namespace Token
variable {ops : Operators} {t : Token}

theorem isPassable_of_operator {s : String} {p : Nat} (h : Expr.IsOperator ops t s p) :
    t.IsPassable ops := by
  simp [IsPassable, h.symbol, h.level]

theorem isPassable_of_kind (word : t.kind ≠ .symbol) (more : t.kind ≠ .endOfInput) :
    t.IsPassable ops := by
  rw [IsPassable, symbol?_eq_none word]
  exact more

theorem isPassable_of_isSymbol {s : String} (h : t.isSymbol s = true)
    (known : s = "(" ∨ s = ")" ∨ s = ",") : t.IsPassable ops := by
  have symbol : t.symbol? = some s := of_decide_eq_true h
  rw [IsPassable, symbol]
  rcases known with rfl | rfl | rfl <;> simp

theorem isPassable_of_starts {s : Expr.Start} (h : Expr.Starts t s) : t.IsPassable ops := by
  cases h with
  | number number =>
    have kind := kind_of_number? number
    exact isPassable_of_kind (by simp [kind]) (by simp [kind])
  | name name =>
    have kind := kind_of_name? name
    exact isPassable_of_kind (by simp [kind]) (by simp [kind])
  | condition condition => exact isPassable_of_kind (by simp [condition]) (by simp [condition])
  | opening opening => exact isPassable_of_isSymbol opening (.inl rfl)

/-- A separator that is no operator is not passed by the parser. -/
theorem not_isPassable_of_separator (free : ops.lookup ";" = none) (h : t.isSymbol ";" = true) :
    ¬ t.IsPassable ops := by
  have symbol : t.symbol? = some ";" := of_decide_eq_true h
  rw [IsPassable, symbol]
  simp [free]

end Token

namespace Expr

/-- Feeds that move on together, with tokens that are equal up to their places, until both
are broken off in a way that `E` allows; by default they are never broken off. -/
structure Lockstep (φ : Option Location → Option Location) (ops : Operators)
    (R : Feed ε → Feed δ → Prop)
    (E : ε → Feed ε → δ → Feed δ → Prop := fun _ _ _ _ => False) : Prop where
  current {f g} : R f g → f.current.map (Token.relocate φ) = g.current.map (Token.relocate φ)
  next {f g t} : R f g → f.current = some t → t.IsPassable ops →
    (∃ f' g', f.next = (none, f') ∧ g.next = (none, g') ∧ R f' g') ∨
      ∃ x y f' g', f.next = (some x, f') ∧ g.next = (some y, g') ∧ E x f' y g'

/-- Outcomes that are equal up to places, with feeds behind them that are related. -/
inductive Outcome.Alike {α : Type} (φ : Option Location → Option Location)
    (R : Feed ε → Feed δ → Prop) (E : ε → Feed ε → δ → Feed δ → Prop) (m : α → α) :
    Outcome α ε → Outcome α δ → Prop where
  | found {a b f g} : m a = m b → R f g → Alike φ R E m (.found a f) (.found b g)
  | refused {x y f g} : x.relocate φ = y.relocate φ → R f g →
    Alike φ R E m (.refused x f) (.refused y g)
  | stopped {x y f g} : E x f y g →
    Alike φ R E m (.stopped (.source x) f) (.stopped (.source y) g)

open Outcome

section
variable {φ : Option Location → Option Location} {ops : Operators} {R : Feed ε → Feed δ → Prop}
  {E : ε → Feed ε → δ → Feed δ → Prop} {f : Feed ε} {g : Feed δ}
  {α β : Type} {m : α → α} {k : β → β}

theorem Outcome.Alike.andThen {x : Outcome α ε} {y : Outcome α δ}
    {follow : α → Feed ε → Outcome β ε} {follow' : α → Feed δ → Outcome β δ}
    (first : Alike φ R E m x y)
    (rest : ∀ a b f g, x = .found a f → m a = m b → R f g →
      Alike φ R E k (follow a f) (follow' b g)) :
    Alike φ R E k (x.andThen follow) (y.andThen follow') := by
  cases first with
  | found same related => exact rest _ _ _ _ rfl same related
  | refused same related => exact .refused same related
  | stopped broken => exact .stopped broken

variable (lock : Lockstep φ ops R E) (related : R f g)
include lock related

theorem Lockstep.any_eq {p : Token → Bool} (h : ∀ t, p (t.relocate φ) = p t) :
    f.current.any p = g.current.any p := by
  have same := congrArg (Option.any p) (lock.current related)
  simpa [Option.any_map, Function.comp_def, h] using same

theorem Lockstep.bind_eq {γ : Type} {p : Token → Option γ} (h : ∀ t, p (t.relocate φ) = p t) :
    f.current.bind p = g.current.bind p := by
  have same := congrArg (Option.bind · p) (lock.current related)
  simpa [Option.bind_map, Function.comp_def, h] using same

theorem Lockstep.symbol?_eq (s : String) : symbol? f s = symbol? g s :=
  lock.any_eq related fun _ => rfl

theorem Lockstep.at?_eq (k : Token.Kind) : at? f k = at? g k :=
  lock.any_eq related fun _ => rfl

theorem Lockstep.name?_eq : name? f = name? g :=
  lock.bind_eq related fun _ => rfl

theorem Lockstep.start?_eq : start? f = start? g :=
  lock.bind_eq related fun _ => rfl

theorem Lockstep.level_eq : level ops f = level ops g := by
  have same : f.current.bind Token.symbol? = g.current.bind Token.symbol? :=
    lock.bind_eq related fun _ => rfl
  rw [level, level, same]

theorem Lockstep.exists_current {t : Token} (h : f.current = some t) :
    ∃ u, g.current = some u ∧ t.operator = u.operator ∧ φ t.location = φ u.location := by
  have same := lock.current related
  rw [h, Option.map_some] at same
  obtain ⟨u, current, same⟩ := Option.map_eq_some_iff.mp same.symm
  obtain ⟨kind, lexeme, value, location⟩ := t
  obtain ⟨kind', lexeme', value', location'⟩ := u
  simp only [Token.relocate, Token.mk.injEq] at same
  obtain ⟨rfl, rfl, rfl, places⟩ := same
  exact ⟨_, current, rfl, places.symm⟩

theorem Lockstep.place_eq {t : Token} (h : f.current = some t) : φ (place f) = φ (place g) := by
  obtain ⟨u, current, -, places⟩ := lock.exists_current related h
  rwa [Expr.place_eq h, Expr.place_eq current]

theorem Lockstep.refused (expected : Expected) :
    Alike φ R E m (.refused ⟨expected, f.current⟩ f) (.refused ⟨expected, g.current⟩ g) := by
  refine .refused ?_ related
  rw [Fault.relocate, Fault.relocate, lock.current related]

theorem Lockstep.past {t : Token} {follow : Feed ε → Outcome α ε} {follow' : Feed δ → Outcome α δ}
    (current : f.current = some t) (passable : t.IsPassable ops)
    (rest : ∀ f' g', f.next = (none, f') → R f' g' → Alike φ R E m (follow f') (follow' g')) :
    Alike φ R E m (past f follow) (past g follow') := by
  rcases lock.next related current passable with
    ⟨f', g', next, next', related⟩ | ⟨x, y, f', g', next, next', broken⟩
  · rw [past_of_next next, past_of_next next']
    exact rest f' g' next related
  · rw [past_of_fault next, past_of_fault next']
    exact .stopped broken

theorem Lockstep.requireSymbol {s : String} (known : s = "(" ∨ s = ")" ∨ s = ",")
    (expected : Expected) {follow : Feed ε → Outcome α ε} {follow' : Feed δ → Outcome α δ}
    (rest : ∀ f' g', f.next = (none, f') → R f' g' → Alike φ R E m (follow f') (follow' g')) :
    Alike φ R E m (require (symbol? f s) expected f follow)
      (require (symbol? g s) expected g follow') := by
  unfold require
  rw [← lock.symbol?_eq related s]
  split
  · rename_i here
    obtain ⟨t, current, symbol⟩ := symbol?_iff.mp here
    exact lock.past related current (Token.isPassable_of_isSymbol symbol known) rest
  · exact lock.refused related expected

theorem Lockstep.requireKeyword {w : Token.Keyword} (expected : Expected)
    {follow : Feed ε → Outcome α ε} {follow' : Feed δ → Outcome α δ}
    (rest : ∀ f' g', f.next = (none, f') → R f' g' → Alike φ R E m (follow f') (follow' g')) :
    Alike φ R E m (require (at? f (.keyword w)) expected f follow)
      (require (at? g (.keyword w)) expected g follow') := by
  unfold require
  rw [← lock.at?_eq related]
  split
  · rename_i here
    obtain ⟨t, current, kind⟩ := at?_iff.mp here
    exact lock.past related current
      (Token.isPassable_of_kind (by simp [kind]) (by simp [kind])) rest
  · exact lock.refused related expected

end

/-! ### Expressions -/

section
variable {φ : Option Location → Option Location} {ops : Operators} {R : Feed ε → Feed δ → Prop}
  {E : ε → Feed ε → δ → Feed δ → Prop} {f : Feed ε} {g : Feed δ} {n : Nat}

variable (φ ops R E n) in
/-- For feeds smaller than `n`, primaries come out alike. -/
def PrimariesAlike : Prop :=
  ∀ {f : Feed ε} {g : Feed δ}, f.size < n → R f g →
    Alike φ R E (relocate φ) (primary ops f).outcome (primary ops g).outcome

variable (lock : Lockstep φ ops R E)
include lock

theorem operations_alike (alike : PrimariesAlike φ ops R E n) (small : f.size ≤ n)
    (related : R f g) {lowest : Int} (nonneg : 0 ≤ lowest) {lhs lhs' : Expr}
    (same : lhs.relocate φ = lhs'.relocate φ) :
    Alike φ R E (relocate φ) (operations ops lowest lhs f).outcome
      (operations ops lowest lhs' g).outcome := by
  induction f using Feed.size_induction generalizing g lowest lhs lhs' with
  | smaller f ih =>
    rw [outcome_operations, outcome_operations, ← lock.level_eq related]
    split
    · exact .found same related
    · rename_i goes
      obtain ⟨t, s, p, current, operator⟩ := exists_operator (by omega : 0 ≤ level ops f)
      obtain ⟨u, current', operators, places⟩ := lock.exists_current related current
      have here := level_eq current operator
      refine lock.past related current (Token.isPassable_of_operator operator) ?_
      intro f₁ g₁ next related₁
      have moved := Feed.size_next_lt next (operator.atEnd current)
      refine (alike (by omega) related₁).andThen fun rhs rhs' f₂ g₂ operand same₂ related₂ => ?_
      have went := Parse.size_of_found operand
      have right : Alike φ R E (relocate φ) (tighter ops (level ops f) rhs f₂).outcome
          (tighter ops (level ops f) rhs' g₂).outcome := by
        rw [outcome_tighter, outcome_tighter, ← lock.level_eq related₂]
        split
        · exact ih f₂ (by omega) (by omega) related₂ (by omega) same₂
        · exact .found same₂ related₂
      refine right.andThen fun rhs₃ rhs₃' f₃ g₃ found same₃ related₃ => ?_
      have left := Parse.size_of_found found
      simp only [current, current']
      refine ih f₃ (by omega) (by omega) related₃ nonneg ?_
      simp only [relocate, same, same₃, operators, places]

theorem expression_alike (alike : PrimariesAlike φ ops R E n) (small : f.size < n)
    (related : R f g) :
    Alike φ R E (relocate φ) (expression ops f).outcome (expression ops g).outcome := by
  rw [outcome_expression, outcome_expression]
  refine (alike small related).andThen fun first first' f₁ g₁ found same related₁ => ?_
  have went := Parse.size_of_found found
  exact operations_alike lock alike (by omega) related₁ (Int.le_refl 0) same

theorem arguments_alike (alike : PrimariesAlike φ ops R E n) (small : f.size < n) (related : R f g)
    (name : String) {l l' : Option Location} (places : φ l = φ l') {before before' : List Expr}
    (same : before.map (relocate φ) = before'.map (relocate φ)) :
    Alike φ R E (relocate φ) (arguments ops name l before f).outcome
      (arguments ops name l' before' g).outcome := by
  induction f using Feed.size_induction generalizing g before before' with
  | smaller f ih =>
    rw [outcome_arguments, outcome_arguments]
    refine (expression_alike lock alike small related).andThen
      fun a a' f₁ g₁ found same₁ related₁ => ?_
    have went := Parse.size_of_found found
    have both : (a :: before).map (relocate φ) = (a' :: before').map (relocate φ) := by
      rw [List.map_cons, List.map_cons, same₁, same]
    rw [← lock.symbol?_eq related₁]
    split
    · rename_i closing
      obtain ⟨t, current, closing⟩ := symbol?_iff.mp closing
      refine lock.past related₁ current
        (Token.isPassable_of_isSymbol closing (.inr (.inl rfl))) fun f₂ g₂ _ related₂ => ?_
      refine .found ?_ related₂
      simp only [relocate, relocateAll_eq_map, List.map_reverse, both, places]
    · refine lock.requireSymbol related₁ (.inr (.inr rfl)) _ fun f₂ g₂ next related₂ => ?_
      have moved := Feed.size_next_le next
      exact ih f₂ (by omega) (by omega) related₂ both

theorem afterName_alike (alike : PrimariesAlike φ ops R E n) (small : f.size < n) (related : R f g)
    (name : String) {l l' : Option Location} (places : φ l = φ l') :
    Alike φ R E (relocate φ) (afterName ops name l f).outcome (afterName ops name l' g).outcome := by
  rw [outcome_afterName, outcome_afterName, ← lock.symbol?_eq related]
  split
  · rename_i opening
    obtain ⟨t, current, opening⟩ := symbol?_iff.mp opening
    refine lock.past related current
      (Token.isPassable_of_isSymbol opening (.inl rfl)) fun f₁ g₁ next related₁ => ?_
    have moved := Feed.size_next_le next
    rw [← lock.symbol?_eq related₁]
    split
    · rename_i closing
      obtain ⟨u, current', closing⟩ := symbol?_iff.mp closing
      refine lock.past related₁ current'
        (Token.isPassable_of_isSymbol closing (.inr (.inl rfl))) fun f₂ g₂ _ related₂ => ?_
      refine .found ?_ related₂
      simp only [relocate, places]
    · exact arguments_alike lock alike (by omega) related₁ name places rfl
  · refine .found ?_ related
    simp only [relocate, places]

theorem afterOpening_alike (alike : PrimariesAlike φ ops R E n) (small : f.size < n)
    (related : R f g) :
    Alike φ R E (relocate φ) (afterOpening ops f).outcome (afterOpening ops g).outcome := by
  rw [outcome_afterOpening, outcome_afterOpening]
  refine (expression_alike lock alike small related).andThen fun a a' f₁ g₁ _ same related₁ => ?_
  exact lock.requireSymbol related₁ (.inr (.inl rfl)) _ fun f₂ g₂ _ related₂ => .found same related₂

theorem afterCondition_alike (alike : PrimariesAlike φ ops R E n) (small : f.size < n)
    (related : R f g) {l l' : Option Location} (places : φ l = φ l') :
    Alike φ R E (relocate φ) (afterCondition ops l f).outcome (afterCondition ops l' g).outcome := by
  rw [outcome_afterCondition, outcome_afterCondition]
  refine (expression_alike lock alike small related).andThen fun x x' f₁ g₁ found same₁ related₁ => ?_
  have went₁ := Parse.size_of_found found
  refine lock.requireKeyword related₁ _ fun f₂ g₂ next related₂ => ?_
  have moved₁ := Feed.size_next_le next
  refine (expression_alike lock alike (by omega) related₂).andThen
    fun y y' f₃ g₃ found same₂ related₃ => ?_
  have went₂ := Parse.size_of_found found
  refine lock.requireKeyword related₃ _ fun f₄ g₄ next related₄ => ?_
  have moved₂ := Feed.size_next_le next
  refine (expression_alike lock alike (by omega) related₄).andThen
    fun z z' f₅ g₅ _ same₃ related₅ => .found ?_ related₅
  simp only [relocate, same₁, same₂, same₃, places]

theorem primariesAlike (n : Nat) : PrimariesAlike φ ops R E n := by
  induction n with
  | zero =>
    intro _ _ small
    exact absurd small (Nat.not_lt_zero _)
  | succ n alike =>
    intro f g small related
    rw [outcome_primary, outcome_primary, ← lock.start?_eq related]
    split
    · exact lock.refused related _
    · rename_i start begins
      obtain ⟨t, current, starts⟩ := start?_eq_some_iff.mp begins
      have places := lock.place_eq related current
      refine lock.past related current
        (Token.isPassable_of_starts starts) fun f₁ g₁ next related₁ => ?_
      have moved := Feed.size_next_lt next (atEnd_of_start begins)
      cases start with
      | number x =>
        refine .found ?_ related₁
        simp only [relocate, places]
      | name name => exact afterName_alike lock alike (by omega) related₁ name places
      | condition => exact afterCondition_alike lock alike (by omega) related₁ places
      | opening => exact afterOpening_alike lock alike (by omega) related₁

end

/-! ### Statements -/

section
variable {φ : Option Location → Option Location} {ops : Operators} {R : Feed ε → Feed δ → Prop}
  {E : ε → Feed ε → δ → Feed δ → Prop} {f : Feed ε} {g : Feed δ} (lock : Lockstep φ ops R E)
include lock

theorem parameters_alike (related : R f g) (before : List String) :
    Alike φ R E id (parameters before f).outcome (parameters before g).outcome := by
  induction f using Feed.size_induction generalizing g before with
  | smaller f ih =>
    rw [outcome_parameters, outcome_parameters, ← lock.name?_eq related]
    split
    · exact .found rfl related
    · rename_i name named
      obtain ⟨t, current, name⟩ := Option.bind_eq_some_iff.mp named
      refine lock.past related current
        (Token.isPassable_of_starts (.name name)) fun f₁ g₁ next related₁ => ?_
      have moved := Feed.size_next_lt next (atEnd_of_name named)
      rw [← lock.symbol?_eq related₁]
      split
      · rename_i comma
        obtain ⟨u, current', comma⟩ := symbol?_iff.mp comma
        refine lock.past related₁ current'
          (Token.isPassable_of_isSymbol comma (.inr (.inr rfl))) fun f₂ g₂ next' related₂ => ?_
        have moved' := Feed.size_next_le next'
        exact ih f₂ (by omega) related₂ _
      · exact .found rfl related₁

theorem signature_alike (related : R f g) :
    Alike φ R E (Prototype.relocate φ) (signature f).outcome (signature g).outcome := by
  rw [outcome_signature, outcome_signature, ← lock.name?_eq related]
  split
  · exact lock.refused related _
  · rename_i name named
    obtain ⟨t, current, name⟩ := Option.bind_eq_some_iff.mp named
    have places := lock.place_eq related current
    refine lock.past related current
      (Token.isPassable_of_starts (.name name)) fun f₁ g₁ _ related₁ => ?_
    refine lock.requireSymbol related₁ (.inl rfl) _ fun f₂ g₂ _ related₂ => ?_
    refine (parameters_alike lock related₂ []).andThen fun ps ps' f₃ g₃ _ same related₃ => ?_
    refine lock.requireSymbol related₃ (.inr (.inl rfl)) _ fun f₄ g₄ _ related₄ => .found ?_ related₄
    cases same
    simp only [Prototype.relocate, places]

/-- **Places do not matter to the parser.** On feeds that move on together, a statement is
found on both or refused on both, the same up to places, or both parses are broken off. -/
theorem statement_alike (related : R f g) :
    Alike φ R E (relocate φ) (statement ops f).outcome (statement ops g).outcome := by
  have body {h : Feed ε} {k : Feed δ} (related : R h k) :
      Alike φ R E (relocate φ) (expression ops h).outcome (expression ops k).outcome :=
    expression_alike lock (primariesAlike lock _) (Nat.lt_succ_self h.size) related
  rw [outcome_statement, outcome_statement, ← lock.at?_eq related, ← lock.at?_eq related]
  split
  · rename_i here
    obtain ⟨t, current, -⟩ := at?_iff.mp here
    have places := lock.place_eq related current
    rw [outcome_definition, outcome_definition]
    refine lock.requireKeyword related _ fun f₁ g₁ _ related₁ => ?_
    refine (signature_alike lock related₁).andThen fun p p' f₂ g₂ _ same related₂ => ?_
    refine (body related₂).andThen fun e e' f₃ g₃ _ same' related₃ => .found ?_ related₃
    simp only [relocate, same, same', places]
  · split
    · rw [outcome_declaration, outcome_declaration]
      refine lock.requireKeyword related _ fun f₁ g₁ _ related₁ => ?_
      rw [outcome_prototypeAlone, outcome_prototypeAlone]
      refine (signature_alike lock related₁).andThen fun p p' f₂ g₂ _ same related₂ => ?_
      refine .found ?_ related₂
      simp only [relocate, same]
    · rw [outcome_bareExpression, outcome_bareExpression]
      refine (body related).andThen fun e e' f₁ g₁ _ same related₁ => .found ?_ related₁
      rw [relocate_anonymous, relocate_anonymous, same]

end

end Expr

end Reckoner

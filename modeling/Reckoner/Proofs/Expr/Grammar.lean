import Reckoner.Expr.Parser
import Reckoner.Proofs.Expr.Grouping

/-! The grammar.

A statement is a definition, a declaration or a bare expression, and an expression is a
chain of operators between primaries, grouped by their precedences. A conditional has no
end of its own: its last branch takes all the operators that follow. So without parentheses
it can only be the last primary of a chain.

The relations below say which tokens derive which tree, and nothing of how they are read.
Where an expression ends depends on the token behind it too (`Ends`): an operator goes on
with it, and so does a parenthesis behind a name, which would make a call of it. -/
namespace Reckoner

/-- A table that leaves alone the symbols of the grammar. -/
structure Operators.IsPlain (ops : Operators) : Prop where
  opening : ops.lookup "(" = none
  closing : ops.lookup ")" = none
  comma : ops.lookup "," = none

namespace Feed

/-- A finite stream of tokens: all of them can be passed, and then the input ends. -/
structure IsStream (f : Feed) : Prop where
  ahead : ∀ x ∈ f.ahead, ∃ t, x = .ok t
  ending : ∃ place, f.ending = .finished place

theorem IsStream.next {f : Feed} (h : f.IsStream) : ∃ g, f.next = (none, g) ∧ g.IsStream := by
  obtain ⟨ahead, ending, finished⟩ := h
  unfold Feed.next
  split
  · rename_i t rest tokens
    rw [tokens] at ahead
    exact ⟨_, rfl, fun x hx => ahead x (List.mem_cons_of_mem _ hx), ending, finished⟩
  · rename_i tokens
    obtain ⟨t, broken⟩ := ahead _ (tokens ▸ List.mem_cons_self)
    cases broken
  · rw [finished]
    exact ⟨_, rfl, List.forall_mem_nil _, ending, finished⟩

theorem IsStream.behind {f g : Feed} (h : f.IsStream) (next : f.next = (none, g)) : g.IsStream := by
  obtain ⟨k, other, stream⟩ := h.next
  cases next.symm.trans other
  exact stream

/-- Moving past tokens, one after the other, leads from one feed to another. -/
inductive Passes : Feed → List Token → Feed → Prop where
  | nil {f} : Passes f [] f
  | cons {f g h t ts} : f.current = some t → f.next = (none, g) → Passes g ts h →
    Passes f (t :: ts) h

theorem passes_nil_iff {f g : Feed} : f.Passes [] g ↔ f = g := by
  constructor
  · rintro ⟨⟩
    rfl
  · rintro rfl
    exact .nil

theorem passes_cons_iff {f h : Feed} {t : Token} {ts : List Token} :
    f.Passes (t :: ts) h ↔ f.current = some t ∧ ∃ g, f.next = (none, g) ∧ g.Passes ts h := by
  constructor
  · rintro ⟨⟩
    exact ⟨‹_›, _, ‹_›, ‹_›⟩
  · rintro ⟨current, g, next, rest⟩
    exact .cons current next rest

theorem passes_append_iff {f h : Feed} {ts us : List Token} :
    f.Passes (ts ++ us) h ↔ ∃ g, f.Passes ts g ∧ g.Passes us h := by
  induction ts generalizing f with
  | nil => simp [passes_nil_iff]
  | cons t ts ih =>
    rw [List.cons_append, passes_cons_iff]
    constructor
    · rintro ⟨current, g, next, rest⟩
      obtain ⟨k, first, second⟩ := ih.mp rest
      exact ⟨k, .cons current next first, second⟩
    · rintro ⟨k, first, second⟩
      obtain ⟨current, g, next, rest⟩ := passes_cons_iff.mp first
      exact ⟨current, g, next, ih.mpr ⟨k, rest, second⟩⟩

theorem passes_singleton_iff {f h : Feed} {t : Token} :
    f.Passes [t] h ↔ f.current = some t ∧ f.next = (none, h) := by
  rw [passes_cons_iff]
  refine and_congr_right fun _ => ⟨?_, fun next => ⟨h, next, .nil⟩⟩
  rintro ⟨g, next, rest⟩
  rwa [← passes_nil_iff.mp rest]

end Feed

namespace Token
variable {t : Token}

theorem kind_of_number? {x : Float} (h : t.number? = some x) : t.kind = .number := by
  unfold number? at h
  split at h
  · assumption
  · cases h

theorem kind_of_name? {n : String} (h : t.name? = some n) : t.kind = .identifier := by
  unfold name? at h
  split at h
  · assumption
  · cases h

theorem kind_of_symbol? {s : String} (h : t.symbol? = some s) : t.kind = .symbol := by
  unfold symbol? at h
  split at h
  · assumption
  · cases h

theorem kind_of_isSymbol {s : String} (h : t.isSymbol s = true) : t.kind = .symbol :=
  kind_of_symbol? (of_decide_eq_true h)

theorem symbol?_eq_none (h : t.kind ≠ .symbol) : t.symbol? = none := by
  cases symbol : t.symbol? with
  | none => rfl
  | some s => exact absurd (kind_of_symbol? symbol) h

theorem isSymbol_eq_false (h : t.kind ≠ .symbol) (s : String) : t.isSymbol s = false := by
  simp [isSymbol, symbol?_eq_none h]

/-- A symbol has one text. -/
theorem isSymbol_eq_false_of_ne {r s : String} (h : t.isSymbol r = true) (ne : r ≠ s) :
    t.isSymbol s = false := by
  have symbol : t.symbol? = some r := of_decide_eq_true h
  simp [isSymbol, symbol, ne]

end Token

namespace Expr

/-- The start of an expression that a token makes. -/
inductive Starts (t : Token) : Start → Prop where
  | number {x} : t.number? = some x → Starts t (.number x)
  | name {n} : t.name? = some n → Starts t (.name n)
  | condition : t.kind = .keyword .condition → Starts t .condition
  | opening : t.isSymbol "(" = true → Starts t .opening

/-- A token that names an operator of the table, and the precedence that it has there. -/
structure IsOperator (ops : Operators) (t : Token) (s : String) (p : Nat) : Prop where
  symbol : t.symbol? = some s
  level : ops.lookup s = some p

/-- The tokens of a conditional that is in no parentheses. -/
def IsOpen (ts : List Token) : Prop :=
  ∃ t ∈ ts.head?, t.kind = .keyword .condition

/-- Tokens of which the last is a name. -/
def IsBare (ts : List Token) : Prop :=
  ∃ t ∈ ts.getLast?, t.name?.isSome = true

section
variable (ops : Operators)

mutual

inductive DerivesPrimary : List Token → Expr → Prop where
  | number {t} {x : Float} : t.number? = some x → DerivesPrimary [t] (.number x t.location)
  | var {t n} : t.name? = some n → DerivesPrimary [t] (.var n t.location)
  | call {t o c n} : t.name? = some n → o.isSymbol "(" = true → c.isSymbol ")" = true →
    DerivesPrimary [t, o, c] (.call n [] t.location)
  | callWith {t o c n ts args} : t.name? = some n → o.isSymbol "(" = true →
    DerivesArguments ts args → c.isSymbol ")" = true →
    DerivesPrimary (t :: o :: (ts ++ [c])) (.call n args t.location)
  | parentheses {o c ts e} : o.isSymbol "(" = true → DerivesExpression ts e →
    c.isSymbol ")" = true → DerivesPrimary (o :: (ts ++ [c])) e
  | conditional {i t e is ts es x y z} : i.kind = .keyword .condition →
    DerivesExpression is x → t.kind = .keyword .consequence →
    DerivesExpression ts y → e.kind = .keyword .alternative → DerivesExpression es z →
    DerivesPrimary (i :: (is ++ t :: (ts ++ e :: es))) (.conditional x y z i.location)

/-- Expressions with a comma between any two of them. -/
inductive DerivesArguments : List Token → List Expr → Prop where
  | last {ts e} : DerivesExpression ts e → DerivesArguments ts [e]
  | more {ts us c e es} : DerivesExpression ts e → c.isSymbol "," = true →
    DerivesArguments us es → DerivesArguments (ts ++ c :: us) (e :: es)

/-- Operators, each with a primary behind it. -/
inductive DerivesChain : List Token → List Link → Prop where
  | nil : DerivesChain [] []
  | cons {t s p ts e us chain} : IsOperator ops t s p → DerivesPrimary ts e →
    (IsOpen ts → us = []) → DerivesChain us chain →
    DerivesChain (t :: (ts ++ us)) (⟨s, p, t.location, e⟩ :: chain)

inductive DerivesExpression : List Token → Expr → Prop where
  | chain {ts us first chain} : DerivesPrimary ts first → (IsOpen ts → us = []) →
    DerivesChain us chain → DerivesExpression (ts ++ us) (group first chain)

end

/-- Operators with primaries of which none is open. So any operator goes on with them. -/
inductive DerivesClosed : List Token → List Link → Prop where
  | nil : DerivesClosed [] []
  | cons {t s p ts e us chain} : IsOperator ops t s p → DerivesPrimary ops ts e → ¬IsOpen ts →
    DerivesClosed us chain → DerivesClosed (t :: (ts ++ us)) (⟨s, p, t.location, e⟩ :: chain)

/-- Names with a comma between any two of them, and perhaps one behind the last. -/
inductive DerivesParameters : List Token → List String → Prop where
  | none : DerivesParameters [] []
  | last {t n} : t.name? = some n → DerivesParameters [t] [n]
  | more {t c n ts ps} : t.name? = some n → c.isSymbol "," = true → DerivesParameters ts ps →
    DerivesParameters (t :: c :: ts) (n :: ps)

inductive DerivesSignature : List Token → Prototype → Prop where
  | parameters {t o c n ts ps} : t.name? = some n → o.isSymbol "(" = true →
    DerivesParameters ts ps → c.isSymbol ")" = true →
    DerivesSignature (t :: o :: (ts ++ [c])) ⟨n, ps, t.location⟩

inductive DerivesStatement : List Token → Expr → Prop where
  | definition {d ts us p body} : d.kind = .keyword .define → DerivesSignature ts p →
    DerivesExpression ops us body → DerivesStatement (d :: (ts ++ us)) (.function p body d.location)
  | declaration {d ts p} : d.kind = .keyword .declare → DerivesSignature ts p →
    DerivesStatement (d :: ts) (.prototype p)
  | bare {ts e} : DerivesExpression ops ts e → DerivesStatement ts (.anonymous e)

/-- At `g` an expression with the tokens `ts` is at its end. -/
structure Ends (ts : List Token) (g : Feed) : Prop where
  operator : ∀ t s p, g.current = some t → ¬IsOperator ops t s p
  bare : IsBare ts → symbol? g "(" = false

/-- At `g` a statement with the tokens `ts` is at its end. A declaration ends by itself. -/
def StatementEnds (e : Expr) (ts : List Token) (g : Feed) : Prop :=
  match e with
  | .prototype _ => True
  | _ => Ends ops ts g

end

/-! ### Tokens that derive something -/

section
variable {ops : Operators} {ts us : List Token} {e : Expr} {chain : List Link}

theorem not_isBare_nil : ¬IsBare [] := by
  simp [IsBare]

theorem isBare_append (ts : List Token) {us : List Token} (h : us ≠ []) :
    IsBare (ts ++ us) ↔ IsBare us := by
  unfold IsBare
  rw [List.getLast?_append, Option.or_of_isSome (List.getLast?_isSome.mpr h)]

theorem isBare_cons (t : Token) (h : ts ≠ []) : IsBare (t :: ts) ↔ IsBare ts :=
  isBare_append [t] h

theorem not_isBare_of_symbol (ts : List Token) {c : Token} {s : String} (h : c.isSymbol s = true) :
    ¬IsBare (ts ++ [c]) := by
  rintro ⟨t, last, name⟩
  simp only [List.getLast?_concat, Option.mem_def, Option.some.injEq] at last
  subst last
  obtain ⟨n, name⟩ := Option.isSome_iff_exists.mp name
  cases (Token.kind_of_isSymbol h).symm.trans (Token.kind_of_name? name)

theorem isOpen_cons_iff {t : Token} : IsOpen (t :: ts) ↔ t.kind = .keyword .condition := by
  simp [IsOpen]

theorem IsOperator.isSymbol_eq_false {t : Token} {r s : String} {p : Nat}
    (h : IsOperator ops t s p) (free : ops.lookup r = none) : t.isSymbol r = false := by
  have symbol : t.isSymbol s = true := decide_eq_true h.symbol
  refine Token.isSymbol_eq_false_of_ne symbol ?_
  rintro rfl
  cases free.symm.trans h.level

theorem Starts.isSymbol_closing {t : Token} {s : Start} (h : Starts t s) :
    t.isSymbol ")" = false := by
  cases h with
  | number number => exact Token.isSymbol_eq_false (by simp [Token.kind_of_number? number]) _
  | name name => exact Token.isSymbol_eq_false (by simp [Token.kind_of_name? name]) _
  | condition condition => exact Token.isSymbol_eq_false (by simp [condition]) _
  | opening opening => exact Token.isSymbol_eq_false_of_ne opening (by decide)

theorem DerivesPrimary.exists_starts (h : DerivesPrimary ops ts e) :
    ∃ t s us, ts = t :: us ∧ Starts t s := by
  cases h with
  | number number => exact ⟨_, _, _, rfl, .number number⟩
  | var name => exact ⟨_, _, _, rfl, .name name⟩
  | call name => exact ⟨_, _, _, rfl, .name name⟩
  | callWith name => exact ⟨_, _, _, rfl, .name name⟩
  | parentheses opening => exact ⟨_, _, _, rfl, .opening opening⟩
  | conditional condition => exact ⟨_, _, _, rfl, .condition condition⟩

theorem DerivesExpression.exists_starts (h : DerivesExpression ops ts e) :
    ∃ t s us, ts = t :: us ∧ Starts t s := by
  cases h with
  | chain first _ _ =>
    obtain ⟨t, s, us, rfl, starts⟩ := first.exists_starts
    exact ⟨t, s, _, rfl, starts⟩

theorem DerivesArguments.exists_starts {es : List Expr} (h : DerivesArguments ops ts es) :
    ∃ t s us, ts = t :: us ∧ Starts t s := by
  cases h with
  | last only => exact only.exists_starts
  | more first _ _ =>
    obtain ⟨t, s, us, rfl, starts⟩ := first.exists_starts
    exact ⟨t, s, _, rfl, starts⟩

theorem DerivesPrimary.ne_nil (h : DerivesPrimary ops ts e) : ts ≠ [] := by
  cases h <;> simp

theorem DerivesChain.eq_nil_iff (h : DerivesChain ops us chain) : us = [] ↔ chain = [] := by
  cases h <;> simp

theorem DerivesClosed.derives (h : DerivesClosed ops us chain) : DerivesChain ops us chain := by
  induction h with
  | nil => exact .nil
  | cons operator operand closed _ ih =>
    exact .cons operator operand (fun opened => absurd opened closed) ih

/-- What stands in front of a link of a chain is closed. -/
theorem DerivesChain.split {before behind : List Link} {x : Link}
    (h : DerivesChain ops us (before ++ x :: behind)) :
    ∃ ts vs, us = ts ++ vs ∧ DerivesClosed ops ts before ∧ DerivesChain ops vs (x :: behind) := by
  induction before generalizing us with
  | nil => exact ⟨[], us, rfl, .nil, h⟩
  | cons y before ih =>
    cases h with
    | @cons t _ _ first _ _ _ operator operand last others =>
      obtain ⟨ts, vs, rfl, closed, rest⟩ := ih others
      refine ⟨t :: (first ++ ts), vs, by simp, .cons operator operand ?_ closed, rest⟩
      intro opened
      exact absurd (others.eq_nil_iff.mp (last opened)) (by simp)

theorem DerivesExpression.ne_nil (h : DerivesExpression ops ts e) : ts ≠ [] := by
  cases h with
  | chain first _ _ => exact List.append_ne_nil_of_left_ne_nil first.ne_nil _

end

end Expr

end Reckoner

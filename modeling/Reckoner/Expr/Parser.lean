import Reckoner.Expr
import Reckoner.Expr.Fault
import Reckoner.Operators
import Reckoner.Token.Feed

/-! Parsing by the precedence of operators.

Constructs are parsed by descent, and chains of operators by climbing:
`operations` folds the operators that bind at least as tightly as a level into
what stands before them, and hands those that bind tighter than their left
neighbour to itself at the next level. The parser looks at the current token only
and never goes back. A parse that fails has one fault, at the token that is then
current.

Each function says in its type how much of the feed it leaves, so the recursion
ends: a construct that is found leaves a smaller feed. -/
namespace Reckoner.Expr

/-- What a construct that moves past a token needs to know of it. -/
inductive Wanted where
  | place
  | value
deriving Repr, DecidableEq

/-- Why a parse stops without a construct and without a fault of the grammar. -/
inductive Stop (ε : Type := Token.Fault) where
  | source (fault : ε)
  /-- No token has been read that could be moved past. -/
  | noToken (wanted : Wanted)
deriving Repr, DecidableEq

/-- The outcome of parsing one construct, with what is left of the feed: less than
`n` after a construct, and never more than `n`. -/
inductive Parse (α : Type) (n : Nat) (ε : Type := Token.Fault) where
  | found (value : α) (rest : Feed ε) (less : rest.size < n)
  | refused (fault : Fault) (rest : Feed ε) (le : rest.size ≤ n)
  | stopped (why : Stop ε) (rest : Feed ε)

variable {ε : Type}

/-- The same outcome under a weaker bound. -/
def Parse.weaken {α : Type} {m n : Nat} (le : m ≤ n) : Parse α m ε → Parse α n ε
  | found value rest less => found value rest (Nat.lt_of_lt_of_le less le)
  | refused fault rest bound => refused fault rest (Nat.le_trans bound le)
  | stopped why rest => stopped why rest

/-- The current token has a given kind. -/
def at? (f : Feed ε) (k : Token.Kind) : Bool :=
  f.current.any (·.kind = k)

/-- The current token is a given symbol. -/
def symbol? (f : Feed ε) (s : String) : Bool :=
  f.current.any (·.isSymbol s)

/-- The name of the current token, if it is an identifier. -/
def name? (f : Feed ε) : Option String :=
  f.current.bind Token.name?

/-- The place of the current token. -/
def place (f : Feed ε) : Option Location :=
  f.current.bind Token.location

/-- How an expression can start. -/
inductive Start where
  | number (x : Float)
  | name (n : String)
  | condition
  | opening

/-- The start of an expression that the current token makes, if it makes one. -/
def start? (f : Feed ε) : Option Start :=
  f.current.bind fun t =>
    match t.number?, t.name? with
    | some x, _ => some (.number x)
    | none, some n => some (.name n)
    | none, none =>
      if t.kind = .keyword .condition then some .condition
      else if t.isSymbol "(" then some .opening
      else none

/-- The precedence of the current token, below every level if it is no operator. -/
def level (ops : Operators) (f : Feed ε) : Int :=
  match f.current.bind Token.symbol? with
  | some s => ops.precedence s
  | none => -1

/-! ### Tokens that are not the end of the input -/

theorem atEnd_of_at {f : Feed ε} {k : Token.Kind} (h : at? f k = true) (ne : k ≠ .endOfInput) :
    f.atEnd = false := by
  unfold at? Feed.atEnd at *
  cases hf : f.current <;> simp_all

theorem atEnd_of_symbol {f : Feed ε} {s : String} (h : symbol? f s = true) : f.atEnd = false := by
  unfold symbol? Feed.atEnd at *
  cases hf : f.current with
  | none => rfl
  | some t =>
    cases hk : t.kind <;> simp_all [Token.isSymbol, Token.symbol?]

theorem atEnd_of_name {f : Feed ε} {n : String} (h : name? f = some n) : f.atEnd = false := by
  unfold name? Feed.atEnd at *
  cases hf : f.current with
  | none => rfl
  | some t =>
    cases hk : t.kind <;> simp_all [Token.name?]

theorem atEnd_of_start {f : Feed ε} {s : Start} (h : start? f = some s) : f.atEnd = false := by
  unfold start? Feed.atEnd at *
  cases hf : f.current with
  | none => rfl
  | some t =>
    cases hk : t.kind <;>
      simp_all [Token.number?, Token.name?, Token.isSymbol, Token.symbol?]

/-! ### Expressions -/

variable (ops : Operators)

mutual

/-- An expression: a primary, then the operations that follow it. -/
def expression (f : Feed ε) : Parse Expr f.size ε :=
  match primary f with
  | .refused fault g le => .refused fault g le
  | .stopped why g => .stopped why g
  | .found lhs g less => (operations 0 lhs g).weaken less
termination_by 4 * f.size + 2
decreasing_by all_goals omega

/-- The operators from `lowest` on that follow `lhs`, with their right sides. -/
def operations (lowest : Int) (lhs : Expr) (f : Feed ε) : Parse Expr (f.size + 1) ε :=
  let here := level ops f
  if here < lowest then .found lhs f (Nat.lt_succ_self _)
  else
    match hn : f.next with
    | (some fault, g) => .stopped (.source fault) g
    | (none, g) =>
      have moved := Feed.size_next_le hn
      match primary g with
      | .refused fault h le => .refused fault h (by omega)
      | .stopped why h => .stopped why h
      | .found rhs h less =>
        match tighter here rhs h with
        | .refused fault k le => .refused fault k (by omega)
        | .stopped why k => .stopped why k
        | .found rhs k le =>
          match f.current with
          | none => .stopped (.noToken .value) k
          | some t =>
            (operations lowest (.binary t.operator lhs rhs t.location) k).weaken
              (by omega)
termination_by 4 * f.size + 1
decreasing_by all_goals omega

/-- A right side with the operations that bind tighter than the one before it. -/
def tighter (here : Int) (rhs : Expr) (f : Feed ε) : Parse Expr (f.size + 1) ε :=
  if here < level ops f then operations (here + 1) rhs f
  else .found rhs f (Nat.lt_succ_self _)
termination_by 4 * f.size + 2
decreasing_by all_goals omega

/-- A number, a name, a call, a conditional or an expression in parentheses. -/
def primary (f : Feed ε) : Parse Expr f.size ε :=
  match hs : start? f with
  | none => .refused ⟨.expression, f.current⟩ f (Nat.le_refl _)
  | some start =>
    match hn : f.next with
    | (some fault, g) => .stopped (.source fault) g
    | (none, g) =>
      have moved := Feed.size_next_lt hn (atEnd_of_start hs)
      match start with
      | .number x => .found (.number x (place f)) g moved
      | .name n => (afterName n (place f) g).weaken moved
      | .condition => (afterCondition (place f) g).weaken moved
      | .opening => (afterOpening g).weaken moved
termination_by 4 * f.size + 0
decreasing_by all_goals omega

/-- What follows a name: the arguments of a call in parentheses, or nothing. -/
def afterName (n : String) (l : Option Location) (f : Feed ε) : Parse Expr (f.size + 1) ε :=
  if ho : symbol? f "(" then
    match hn : f.next with
    | (some fault, g) => .stopped (.source fault) g
    | (none, g) =>
      have moved := Feed.size_next_lt hn (atEnd_of_symbol ho)
      if symbol? g ")" then
        match hm : g.next with
        | (some fault, h) => .stopped (.source fault) h
        | (none, h) =>
          have := Feed.size_next_le hm
          .found (.call n [] l) h (by omega)
      else (arguments n l [] g).weaken (by omega)
  else .found (.var n l) f (Nat.lt_succ_self _)
termination_by 4 * f.size + 3
decreasing_by all_goals omega

/-- The arguments of a call after those in `before`, which are in reverse, and the
parenthesis that closes them. -/
def arguments (n : String) (l : Option Location) (before : List Expr) (f : Feed ε) :
    Parse Expr (f.size + 1) ε :=
  match expression f with
  | .refused fault g le => .refused fault g (by omega)
  | .stopped why g => .stopped why g
  | .found arg g less =>
    if symbol? g ")" then
      match hn : g.next with
      | (some fault, h) => .stopped (.source fault) h
      | (none, h) =>
        have := Feed.size_next_le hn
        .found (.call n (arg :: before).reverse l) h (by omega)
    else if symbol? g "," then
      match hn : g.next with
      | (some fault, h) => .stopped (.source fault) h
      | (none, h) =>
        have := Feed.size_next_le hn
        (arguments n l (arg :: before) h).weaken (by omega)
    else .refused ⟨.moreArguments, g.current⟩ g (by omega)
termination_by 4 * f.size + 3
decreasing_by all_goals omega

/-- An expression and the parenthesis that closes it. -/
def afterOpening (f : Feed ε) : Parse Expr (f.size + 1) ε :=
  match expression f with
  | .refused fault g le => .refused fault g (by omega)
  | .stopped why g => .stopped why g
  | .found e g less =>
    if symbol? g ")" then
      match hn : g.next with
      | (some fault, h) => .stopped (.source fault) h
      | (none, h) =>
        have := Feed.size_next_le hn
        .found e h (by omega)
    else .refused ⟨.closing, g.current⟩ g (by omega)
termination_by 4 * f.size + 3
decreasing_by all_goals omega

/-- A condition and the two branches of a conditional. -/
def afterCondition (l : Option Location) (f : Feed ε) : Parse Expr (f.size + 1) ε :=
  match expression f with
  | .refused fault g le => .refused fault g (by omega)
  | .stopped why g => .stopped why g
  | .found condition g less =>
    if at? g (.keyword .consequence) then
      match hn : g.next with
      | (some fault, h) => .stopped (.source fault) h
      | (none, h) =>
        have := Feed.size_next_le hn
        match expression h with
        | .refused fault k le => .refused fault k (by omega)
        | .stopped why k => .stopped why k
        | .found consequence k less =>
          if at? k (.keyword .alternative) then
            match hm : k.next with
            | (some fault, p) => .stopped (.source fault) p
            | (none, p) =>
              have := Feed.size_next_le hm
              match expression p with
              | .refused fault q le => .refused fault q (by omega)
              | .stopped why q => .stopped why q
              | .found alternative q less =>
                .found (.conditional condition consequence alternative l) q (by omega)
          else .refused ⟨.alternative, k.current⟩ k (by omega)
    else .refused ⟨.consequence, g.current⟩ g (by omega)
termination_by 4 * f.size + 3
decreasing_by all_goals omega

end

/-- Moves past the current token, whatever it is, for what follows its place. -/
def movingPast (f : Feed ε)
    (follow : Option Location → (g : Feed ε) → Parse Expr (g.size + 1) ε) :
    Parse Expr (f.size + 1) ε :=
  match hn : f.next with
  | (some fault, g) => .stopped (.source fault) g
  | (none, g) =>
    match f.current with
    | none => .stopped (.noToken .place) g
    | some t => (follow t.location g).weaken (Nat.succ_le_succ (Feed.size_next_le hn))

/-- The current token taken for a name, with what follows it. -/
def named (n : String) (f : Feed ε) : Parse Expr (f.size + 1) ε :=
  movingPast f (afterName ops n)

/-- The current token taken for the start of a conditional. -/
def conditionalAt (f : Feed ε) : Parse Expr (f.size + 1) ε :=
  movingPast f (afterCondition ops)

/-- The current token taken for an opening parenthesis. -/
def parenthesized (f : Feed ε) : Parse Expr (f.size + 1) ε :=
  match hn : f.next with
  | (some fault, g) => .stopped (.source fault) g
  | (none, g) => (afterOpening ops g).weaken (Nat.succ_le_succ (Feed.size_next_le hn))

/-! ### Definitions and declarations -/

/-- The parameters after those in `before`, which are in reverse. One comma may
stand after the last. -/
def parameters (before : List String) (f : Feed ε) : Parse (List String) (f.size + 1) ε :=
  match hp : name? f with
  | none => .found before.reverse f (Nat.lt_succ_self _)
  | some p =>
    match hn : f.next with
    | (some fault, g) => .stopped (.source fault) g
    | (none, g) =>
      have moved := Feed.size_next_lt hn (atEnd_of_name hp)
      if symbol? g "," then
        match hm : g.next with
        | (some fault, h) => .stopped (.source fault) h
        | (none, h) =>
          have := Feed.size_next_le hm
          (parameters (p :: before) h).weaken (by omega)
      else .found (p :: before).reverse g (by omega)
termination_by f.size

/-- A function's name and its parameters in parentheses. -/
def signature (f : Feed ε) : Parse Prototype f.size ε :=
  match hp : name? f with
  | none => .refused ⟨.functionName, f.current⟩ f (Nat.le_refl _)
  | some n =>
    match hn : f.next with
    | (some fault, g) => .stopped (.source fault) g
    | (none, g) =>
      have named := Feed.size_next_lt hn (atEnd_of_name hp)
      if symbol? g "(" then
        match hm : g.next with
        | (some fault, h) => .stopped (.source fault) h
        | (none, h) =>
          have opened := Feed.size_next_le hm
          match parameters [] h with
          | .refused fault k le => .refused fault k (by omega)
          | .stopped why k => .stopped why k
          | .found params k less =>
            if symbol? k ")" then
              match hl : k.next with
              | (some fault, p) => .stopped (.source fault) p
              | (none, p) =>
                have := Feed.size_next_le hl
                .found ⟨n, params, place f⟩ p (by omega)
            else .refused ⟨.closeParameters, k.current⟩ k (by omega)
      else .refused ⟨.openParameters, g.current⟩ g (by omega)

/-- A prototype alone. -/
def prototypeAlone (f : Feed ε) : Parse Expr f.size ε :=
  match signature f with
  | .refused fault g le => .refused fault g le
  | .stopped why g => .stopped why g
  | .found p g less => .found (.prototype p) g less

/-- A definition: its keyword, a prototype and a body. -/
def definition (f : Feed ε) : Parse Expr f.size ε :=
  if hd : at? f (.keyword .define) then
    match hn : f.next with
    | (some fault, g) => .stopped (.source fault) g
    | (none, g) =>
      have moved := Feed.size_next_lt hn (atEnd_of_at hd (by decide))
      match signature g with
      | .refused fault h le => .refused fault h (by omega)
      | .stopped why h => .stopped why h
      | .found p h less =>
        match expression ops h with
        | .refused fault k le => .refused fault k (by omega)
        | .stopped why k => .stopped why k
        | .found body k _ => .found (.function p body (place f)) k (by omega)
  else .refused ⟨.define, f.current⟩ f (Nat.le_refl _)

/-- A declaration: its keyword and a prototype. -/
def declaration (f : Feed ε) : Parse Expr f.size ε :=
  if hd : at? f (.keyword .declare) then
    match hn : f.next with
    | (some fault, g) => .stopped (.source fault) g
    | (none, g) =>
      (prototypeAlone g).weaken
        (Nat.le_of_lt (Feed.size_next_lt hn (atEnd_of_at hd (by decide))))
  else .refused ⟨.declare, f.current⟩ f (Nat.le_refl _)

/-- A bare expression. -/
def bareExpression (f : Feed ε) : Parse Expr f.size ε :=
  match expression ops f with
  | .refused fault g le => .refused fault g le
  | .stopped why g => .stopped why g
  | .found body g less => .found (.anonymous body) g less

/-- Whichever construct starts at the current token. -/
def statement (f : Feed ε) : Parse Expr f.size ε :=
  if at? f (.keyword .define) then definition ops f
  else if at? f (.keyword .declare) then declaration f
  else bareExpression ops f

end Reckoner.Expr

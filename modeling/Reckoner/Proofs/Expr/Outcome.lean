import Reckoner.Expr.Parser

/-! What parses come to.

The bound that a parse carries is there for the recursion alone. Without it a parse has an
`Outcome`, and every function of the parser is an equation between outcomes: moving past a
token (`outcome_past`), asking for one, and one construct after another. All else that is said of the parser
comes from these equations. -/
namespace Reckoner
variable {ε : Type}

/-- Induction on how much of a feed is left. -/
@[elab_as_elim]
theorem Feed.size_induction {motive : Feed ε → Prop}
    (smaller : ∀ f : Feed ε, (∀ g : Feed ε, g.size < f.size → motive g) → motive f) (f : Feed ε) :
    motive f :=
  (measure Feed.size).wf.induction f smaller

namespace Expr

/-- The outcome of parsing one construct, with what is left of the feed. -/
inductive Outcome (α : Type) (ε : Type := Token.Fault) where
  | found (value : α) (rest : Feed ε)
  | refused (fault : Fault) (rest : Feed ε)
  | stopped (why : Stop ε) (rest : Feed ε)

section
variable {α β : Type} {n : Nat}

def Parse.outcome : Parse α n ε → Outcome α ε
  | .found value rest _ => .found value rest
  | .refused fault rest _ => .refused fault rest
  | .stopped why rest => .stopped why rest

@[simp]
theorem Parse.outcome_found (value : α) (g : Feed ε) (less : g.size < n) :
    (Parse.found value g less).outcome = .found value g := rfl

@[simp]
theorem Parse.outcome_refused (fault : Fault) (g : Feed ε) (le : g.size ≤ n) :
    (Parse.refused (α := α) fault g le).outcome = .refused fault g := rfl

@[simp]
theorem Parse.outcome_weaken {m : Nat} (le : m ≤ n) (x : Parse α m ε) :
    (x.weaken le).outcome = x.outcome := by
  cases x <;> rfl

theorem Parse.size_of_found {x : Parse α n ε} {value : α} {g : Feed ε}
    (h : x.outcome = .found value g) : g.size < n := by
  cases x with
  | found value rest less =>
    cases h
    exact less
  | refused => cases h
  | stopped => cases h

namespace Outcome

/-- Goes on behind a construct that is found. -/
def andThen (x : Outcome α ε) (follow : α → Feed ε → Outcome β ε) : Outcome β ε :=
  match x with
  | found value rest => follow value rest
  | refused fault rest => refused fault rest
  | stopped why rest => stopped why rest

@[simp]
theorem found_andThen (a : α) (g : Feed ε) (follow : α → Feed ε → Outcome β ε) :
    (found a g).andThen follow = follow a g := rfl

/-- Goes on behind the current token. -/
def past (f : Feed ε) (follow : Feed ε → Outcome α ε) : Outcome α ε :=
  match f.next with
  | (some fault, g) => stopped (.source fault) g
  | (none, g) => follow g

/-- Goes on behind the current token if it is the one that is asked for. -/
def require (holds : Bool) (expected : Expected) (f : Feed ε) (follow : Feed ε → Outcome α ε) :
    Outcome α ε :=
  if holds then past f follow else refused ⟨expected, f.current⟩ f

variable {x : Outcome α ε} {f g : Feed ε} {holds : Bool} {expected : Expected}

theorem past_of_next {follow : Feed ε → Outcome α ε} (h : f.next = (none, g)) :
    past f follow = follow g := by
  rw [past, h]

theorem past_of_fault {follow : Feed ε → Outcome α ε} {fault : ε}
    (h : f.next = (some fault, g)) : past f follow = stopped (.source fault) g := by
  rw [past, h]

theorem andThen_eq_found_iff {follow : α → Feed ε → Outcome β ε} {value : β} :
    x.andThen follow = found value g ↔ ∃ a h, x = found a h ∧ follow a h = found value g := by
  cases x <;> simp [andThen, and_assoc]

theorem past_eq_found_iff {follow : Feed ε → Outcome α ε} {value : α} :
    past f follow = found value g ↔ ∃ h, f.next = (none, h) ∧ follow h = found value g := by
  unfold past
  split <;> simp_all

theorem require_eq_found_iff {follow : Feed ε → Outcome α ε} {value : α} :
    require holds expected f follow = found value g ↔
      holds = true ∧ ∃ h, f.next = (none, h) ∧ follow h = found value g := by
  unfold require
  split <;> simp_all [past_eq_found_iff]

end Outcome

/-- A parse that moves past the current token comes to what its rest comes to. -/
theorem outcome_past {f : Feed ε} {rest : (g : Feed ε) → f.next = (none, g) → Parse α n ε}
    {follow : Feed ε → Outcome α ε} (h : ∀ g next, (rest g next).outcome = follow g) :
    (match hn : f.next with
      | (some fault, g) => (.stopped (.source fault) g : Parse α n ε)
      | (none, g) => rest g hn).outcome = .past f follow := by
  split
  · rename_i next
    rw [Outcome.past_of_fault next]
    rfl
  · rename_i next
    rw [Outcome.past_of_next next]
    exact h _ next

end

open Outcome

/-! ### Expressions -/

section
variable (ops : Operators)

theorem outcome_expression (f : Feed ε) :
    (expression ops f).outcome =
      (primary ops f).outcome.andThen fun lhs g => (operations ops 0 lhs g).outcome := by
  rw [expression]
  cases primary ops f with
  | refused => rfl
  | stopped => rfl
  | found => exact Parse.outcome_weaken _ _

theorem outcome_operations (lowest : Int) (lhs : Expr) (f : Feed ε) :
    (operations ops lowest lhs f).outcome =
      if level ops f < lowest then .found lhs f
      else past f fun g => (primary ops g).outcome.andThen fun rhs h =>
        (tighter ops (level ops f) rhs h).outcome.andThen fun rhs k =>
          match f.current with
          | none => .stopped (.noToken .value) k
          | some t => (operations ops lowest (.binary t.operator lhs rhs t.location) k).outcome := by
  rw [operations]
  dsimp only
  split
  · rfl
  · refine outcome_past fun g _ => ?_
    cases primary ops g with
    | refused => rfl
    | stopped => rfl
    | found rhs h =>
      simp only [Parse.outcome_found, found_andThen]
      cases tighter ops (level ops f) rhs h with
      | refused => rfl
      | stopped => rfl
      | found =>
        simp only [Parse.outcome_found, found_andThen]
        cases f.current with
        | none => rfl
        | some => exact Parse.outcome_weaken _ _

theorem outcome_tighter (here : Int) (rhs : Expr) (f : Feed ε) :
    (tighter ops here rhs f).outcome =
      if here < level ops f then (operations ops (here + 1) rhs f).outcome else .found rhs f := by
  rw [tighter]
  split <;> rfl

theorem outcome_primary (f : Feed ε) :
    (primary ops f).outcome =
      match start? f with
      | none => .refused ⟨.expression, f.current⟩ f
      | some start => past f fun g =>
        match start with
        | .number x => .found (.number x (place f)) g
        | .name n => (afterName ops n (place f) g).outcome
        | .condition => (afterCondition ops (place f) g).outcome
        | .opening => (afterOpening ops g).outcome := by
  rw [primary]
  split
  · rename_i start
    simp only [start, Parse.outcome_refused]
  · rename_i start
    simp only [start]
    refine outcome_past fun g _ => ?_
    split
    · rfl
    all_goals exact Parse.outcome_weaken _ _

theorem outcome_afterName (n : String) (l : Option Location) (f : Feed ε) :
    (afterName ops n l f).outcome =
      if symbol? f "(" then past f fun g =>
        if symbol? g ")" then past g fun h => .found (.call n [] l) h
        else (arguments ops n l [] g).outcome
      else .found (.var n l) f := by
  rw [afterName]
  split
  · refine outcome_past fun g _ => ?_
    dsimp only
    split
    · exact outcome_past fun h _ => rfl
    · exact Parse.outcome_weaken _ _
  · rfl

theorem outcome_arguments (n : String) (l : Option Location) (before : List Expr) (f : Feed ε) :
    (arguments ops n l before f).outcome =
      (expression ops f).outcome.andThen fun arg g =>
        if symbol? g ")" then past g fun h => .found (.call n (arg :: before).reverse l) h
        else require (symbol? g ",") .moreArguments g fun h =>
          (arguments ops n l (arg :: before) h).outcome := by
  rw [arguments]
  cases expression ops f with
  | refused => rfl
  | stopped => rfl
  | found arg g =>
    simp only [Parse.outcome_found, found_andThen, require]
    split
    · exact outcome_past fun h _ => rfl
    · split
      · exact outcome_past fun h _ => Parse.outcome_weaken _ _
      · rfl

theorem outcome_afterOpening (f : Feed ε) :
    (afterOpening ops f).outcome =
      (expression ops f).outcome.andThen fun e g =>
        require (symbol? g ")") .closing g fun h => .found e h := by
  rw [afterOpening]
  cases expression ops f with
  | refused => rfl
  | stopped => rfl
  | found e g =>
    simp only [Parse.outcome_found, found_andThen, require]
    split
    · exact outcome_past fun h _ => rfl
    · rfl

theorem outcome_afterCondition (l : Option Location) (f : Feed ε) :
    (afterCondition ops l f).outcome =
      (expression ops f).outcome.andThen fun c g =>
        require (at? g (.keyword .consequence)) .consequence g fun h =>
          (expression ops h).outcome.andThen fun t k =>
            require (at? k (.keyword .alternative)) .alternative k fun p =>
              (expression ops p).outcome.andThen fun e q => .found (.conditional c t e l) q := by
  rw [afterCondition]
  cases expression ops f with
  | refused => rfl
  | stopped => rfl
  | found c g =>
    simp only [Parse.outcome_found, found_andThen, require]
    split
    · refine outcome_past fun h _ => ?_
      cases expression ops h with
      | refused => rfl
      | stopped => rfl
      | found t k =>
        simp only [Parse.outcome_found, found_andThen]
        split
        · refine outcome_past fun p _ => ?_
          cases expression ops p <;> rfl
        · rfl
    · rfl

end

/-! ### Statements -/

theorem outcome_parameters (before : List String) (f : Feed ε) :
    (parameters before f).outcome =
      match name? f with
      | none => .found before.reverse f
      | some p => past f fun g =>
        if symbol? g "," then past g fun h => (parameters (p :: before) h).outcome
        else .found (p :: before).reverse g := by
  rw [parameters]
  split
  · rename_i none
    simp only [none, Parse.outcome_found]
  · rename_i name
    simp only [name]
    refine outcome_past fun g _ => ?_
    split
    · exact outcome_past fun h _ => Parse.outcome_weaken _ _
    · rfl

theorem outcome_signature (f : Feed ε) :
    (signature f).outcome =
      match name? f with
      | none => .refused ⟨.functionName, f.current⟩ f
      | some n => past f fun g => require (symbol? g "(") .openParameters g fun h =>
        (parameters [] h).outcome.andThen fun ps k =>
          require (symbol? k ")") .closeParameters k fun p => .found ⟨n, ps, place f⟩ p := by
  rw [signature]
  split
  · rename_i none
    simp only [none, Parse.outcome_refused]
  · rename_i name
    simp only [name]
    refine outcome_past fun g _ => ?_
    simp only [require]
    split
    · refine outcome_past fun h _ => ?_
      cases parameters [] h with
      | refused => rfl
      | stopped => rfl
      | found ps k =>
        simp only [Parse.outcome_found, found_andThen]
        split
        · exact outcome_past fun p _ => rfl
        · rfl
    · rfl

theorem outcome_prototypeAlone (f : Feed ε) :
    (prototypeAlone f).outcome =
      (signature f).outcome.andThen fun p g => .found (.prototype p) g := by
  rw [prototypeAlone]
  cases signature f <;> rfl

theorem outcome_declaration (f : Feed ε) :
    (declaration f).outcome =
      require (at? f (.keyword .declare)) .declare f fun g => (prototypeAlone g).outcome := by
  rw [declaration, require]
  split
  · exact outcome_past fun g _ => Parse.outcome_weaken _ _
  · rfl

section
variable (ops : Operators)

theorem outcome_definition (f : Feed ε) :
    (definition ops f).outcome =
      require (at? f (.keyword .define)) .define f fun g =>
        (signature g).outcome.andThen fun p h =>
          (expression ops h).outcome.andThen fun body k => .found (.function p body (place f)) k := by
  rw [definition, require]
  split
  · refine outcome_past fun g _ => ?_
    dsimp only
    cases signature g with
    | refused => rfl
    | stopped => rfl
    | found p h =>
      simp only [Parse.outcome_found, found_andThen]
      cases expression ops h <;> rfl
  · rfl

theorem outcome_bareExpression (f : Feed ε) :
    (bareExpression ops f).outcome =
      (expression ops f).outcome.andThen fun body g => .found (.anonymous body) g := by
  rw [bareExpression]
  cases expression ops f <;> rfl

theorem outcome_statement (f : Feed ε) :
    (statement ops f).outcome =
      if at? f (.keyword .define) then (definition ops f).outcome
      else if at? f (.keyword .declare) then (declaration f).outcome
      else (bareExpression ops f).outcome := by
  rw [statement]
  split
  · rfl
  · split <;> rfl

end

end Expr

end Reckoner

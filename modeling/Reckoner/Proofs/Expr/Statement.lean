import Reckoner.Expr.Parser
import Reckoner.Proofs.Token.Names

/-! What parses give.

Every construct that the parser finds has the shape of one: expressions are terms, and
what stands at the top is a statement (`statement_gives`). The recursion is that of the
parser. -/
namespace Reckoner.Expr

/-- What a parse finds satisfies `p`, and the feed that it leaves has spelled names. -/
def Parse.Gives {α : Type} {n : Nat} (p : α → Prop) : Parse α n → Prop
  | .found value rest _ => p value ∧ rest.Spelled
  | .refused _ rest _ => rest.Spelled
  | .stopped _ _ => True

theorem Parse.Gives.weaken {α : Type} {p : α → Prop} {m n : Nat} {x : Parse α m} (h : x.Gives p)
    (le : m ≤ n) : (x.weaken le).Gives p := by
  cases x <;> exact h

theorem isIdentifier_of_name? {f : Feed} (h : f.Spelled) {n : String} (hn : name? f = some n) :
    IsIdentifier n := by
  obtain ⟨t, ht, name⟩ := Option.bind_eq_some_iff.mp hn
  exact h.current t ht n name

theorem isIdentifier_of_start? {f : Feed} (h : f.Spelled) {n : String}
    (hn : start? f = some (.name n)) : IsIdentifier n := by
  obtain ⟨t, ht, start⟩ := Option.bind_eq_some_iff.mp hn
  cases number : t.number? with
  | some x => simp [number] at start
  | none =>
    cases name : t.name? with
    | some k =>
      simp only [number, name, Option.some.injEq, Start.name.injEq] at start
      exact h.current t ht n (start ▸ name)
    | none =>
      simp only [number, name] at start
      split at start
      · cases start
      · split at start <;> cases start

theorem spelled_of_next {f g : Feed} {fault : Option Token.Fault} (h : f.Spelled)
    (hn : f.next = (fault, g)) : g.Spelled := by
  have := h.next
  rwa [hn] at this

theorem areTerms_reverse {es : List Expr} (h : ∀ e ∈ es, e.IsTerm) : AreTerms es.reverse := by
  have all (l : List Expr) : (∀ e ∈ l, e.IsTerm) → AreTerms l := by
    induction l with
    | nil => exact fun _ => trivial
    | cons e rest ih =>
      intro h
      exact ⟨h e List.mem_cons_self, ih fun x hx => h x (List.mem_cons_of_mem _ hx)⟩
  exact all _ fun e he => h e (List.mem_reverse.mp he)

variable (ops : Operators)

mutual

theorem expression_gives (f : Feed) (hf : f.Spelled) : (expression ops f).Gives IsTerm := by
  unfold expression
  have first := primary_gives f hf
  split
  · rename_i h
    rwa [h] at first
  · trivial
  · rename_i lhs g less h
    rw [h] at first
    exact (operations_gives 0 lhs g first.1 first.2).weaken less
termination_by 4 * f.size + 2
decreasing_by all_goals omega

theorem operations_gives (lowest : Int) (lhs : Expr) (f : Feed) (hl : lhs.IsTerm) (hf : f.Spelled) :
    (operations ops lowest lhs f).Gives IsTerm := by
  unfold operations
  dsimp only
  split
  · exact ⟨hl, hf⟩
  · split
    · trivial
    · rename_i g hn
      have moved := Feed.size_next_le hn
      have first := primary_gives g (spelled_of_next hf hn)
      split
      · rename_i h
        rwa [h] at first
      · trivial
      · rename_i rhs h less hp
        rw [hp] at first
        have second := tighter_gives (level ops f) rhs h first.1 first.2
        split
        · rename_i ht
          rwa [ht] at second
        · trivial
        · rename_i rhs' k le ht
          rw [ht] at second
          split
          · trivial
          · rename_i t _
            have term : (Expr.binary t.operator lhs rhs' t.location).IsTerm :=
              ⟨hl, second.1⟩
            exact (operations_gives lowest _ k term second.2).weaken _
termination_by 4 * f.size + 1
decreasing_by all_goals omega

theorem tighter_gives (here : Int) (rhs : Expr) (f : Feed) (hr : rhs.IsTerm) (hf : f.Spelled) :
    (tighter ops here rhs f).Gives IsTerm := by
  unfold tighter
  split
  · exact operations_gives (here + 1) rhs f hr hf
  · exact ⟨hr, hf⟩
termination_by 4 * f.size + 2
decreasing_by all_goals omega

theorem primary_gives (f : Feed) (hf : f.Spelled) : (primary ops f).Gives IsTerm := by
  unfold primary
  split
  · exact hf
  · rename_i start hs
    split
    · trivial
    · rename_i g hn
      have moved := Feed.size_next_lt hn (atEnd_of_start hs)
      have rest := spelled_of_next hf hn
      split
      · exact ⟨trivial, rest⟩
      · exact (afterName_gives _ _ g (isIdentifier_of_start? hf hs) rest).weaken _
      · exact (afterCondition_gives _ g rest).weaken _
      · exact (afterOpening_gives g rest).weaken _
termination_by 4 * f.size + 0
decreasing_by all_goals omega

theorem afterName_gives (n : String) (l : Option Location) (f : Feed) (hn : IsIdentifier n)
    (hf : f.Spelled) : (afterName ops n l f).Gives IsTerm := by
  unfold afterName
  split
  · rename_i ho
    split
    · trivial
    · rename_i g hg
      have moved := Feed.size_next_lt hg (atEnd_of_symbol ho)
      have rest := spelled_of_next hf hg
      split
      · split
        · trivial
        · rename_i h hh
          exact ⟨⟨hn, trivial⟩, spelled_of_next rest hh⟩
      · exact (arguments_gives n l [] g hn (List.forall_mem_nil _) rest).weaken _
  · exact ⟨hn, hf⟩
termination_by 4 * f.size + 3
decreasing_by all_goals omega

theorem arguments_gives (n : String) (l : Option Location) (before : List Expr) (f : Feed)
    (hn : IsIdentifier n) (hb : ∀ e ∈ before, e.IsTerm) (hf : f.Spelled) :
    (arguments ops n l before f).Gives IsTerm := by
  unfold arguments
  have first := expression_gives f hf
  split
  · rename_i h
    rwa [h] at first
  · trivial
  · rename_i arg g less h
    rw [h] at first
    have terms := List.forall_mem_cons.mpr ⟨first.1, hb⟩
    split
    · split
      · trivial
      · rename_i k hk
        exact ⟨⟨hn, areTerms_reverse terms⟩, spelled_of_next first.2 hk⟩
    · split
      · split
        · trivial
        · rename_i k hk
          have moved := Feed.size_next_le hk
          exact (arguments_gives n l _ k hn terms (spelled_of_next first.2 hk)).weaken _
      · exact first.2
termination_by 4 * f.size + 3
decreasing_by all_goals omega

theorem afterOpening_gives (f : Feed) (hf : f.Spelled) : (afterOpening ops f).Gives IsTerm := by
  unfold afterOpening
  have first := expression_gives f hf
  split
  · rename_i h
    rwa [h] at first
  · trivial
  · rename_i e g less h
    rw [h] at first
    split
    · split
      · trivial
      · rename_i k hk
        exact ⟨first.1, spelled_of_next first.2 hk⟩
    · exact first.2
termination_by 4 * f.size + 3
decreasing_by all_goals omega

theorem afterCondition_gives (l : Option Location) (f : Feed) (hf : f.Spelled) :
    (afterCondition ops l f).Gives IsTerm := by
  unfold afterCondition
  have first := expression_gives f hf
  split
  · rename_i h
    rwa [h] at first
  · trivial
  · rename_i condition g less h
    rw [h] at first
    split
    · split
      · trivial
      · rename_i k hk
        have moved := Feed.size_next_le hk
        have second := expression_gives k (spelled_of_next first.2 hk)
        split
        · rename_i h
          rwa [h] at second
        · trivial
        · rename_i consequence p less' hc
          rw [hc] at second
          split
          · split
            · trivial
            · rename_i q hq
              have moved' := Feed.size_next_le hq
              have third := expression_gives q (spelled_of_next second.2 hq)
              split
              · rename_i h
                rwa [h] at third
              · trivial
              · rename_i alternative r less'' ha
                rw [ha] at third
                exact ⟨⟨first.1, second.1, third.1⟩, third.2⟩
          · exact second.2
    · exact first.2
termination_by 4 * f.size + 3
decreasing_by all_goals omega

end

theorem parameters_gives (before : List String) (f : Feed) (hb : ∀ x ∈ before, IsIdentifier x)
    (hf : f.Spelled) : (parameters before f).Gives fun ps => ∀ x ∈ ps, IsIdentifier x := by
  unfold parameters
  split
  · exact ⟨fun x hx => hb x (List.mem_reverse.mp hx), hf⟩
  · rename_i p hp
    have longer : ∀ x ∈ p :: before, IsIdentifier x :=
      List.forall_mem_cons.mpr ⟨isIdentifier_of_name? hf hp, hb⟩
    split
    · trivial
    · rename_i g hg
      have moved := Feed.size_next_lt hg (atEnd_of_name hp)
      have rest := spelled_of_next hf hg
      split
      · split
        · trivial
        · rename_i h hh
          have moved' := Feed.size_next_le hh
          exact (parameters_gives (p :: before) h longer (spelled_of_next rest hh)).weaken _
      · exact ⟨fun x hx => longer x (List.mem_reverse.mp hx), rest⟩
termination_by f.size
decreasing_by omega

theorem signature_gives (f : Feed) (hf : f.Spelled) : (signature f).Gives IsSignature := by
  unfold signature
  split
  · exact hf
  · rename_i n hn
    split
    · trivial
    · rename_i g hg
      have rest := spelled_of_next hf hg
      split
      · split
        · trivial
        · rename_i h hh
          have params := parameters_gives [] h (List.forall_mem_nil _) (spelled_of_next rest hh)
          split
          · rename_i hp
            rwa [hp] at params
          · trivial
          · rename_i ps k less hp
            rw [hp] at params
            split
            · split
              · trivial
              · rename_i q hq
                exact ⟨⟨isIdentifier_of_name? hf hn, params.1⟩, spelled_of_next params.2 hq⟩
            · exact params.2
      · exact rest

theorem definition_gives (f : Feed) (hf : f.Spelled) : (definition ops f).Gives IsStatement := by
  unfold definition
  split
  · split
    · trivial
    · rename_i g hg
      have head := signature_gives g (spelled_of_next hf hg)
      split
      · rename_i h
        rwa [h] at head
      · trivial
      · rename_i p k less h
        rw [h] at head
        have body := expression_gives ops k head.2
        split
        · rename_i h
          rwa [h] at body
        · trivial
        · rename_i e q less' h
          rw [h] at body
          exact ⟨.definition head.1 body.1, body.2⟩
  · exact hf

theorem declaration_gives (f : Feed) (hf : f.Spelled) : (declaration f).Gives IsStatement := by
  unfold declaration
  split
  · split
    · trivial
    · rename_i g hg
      refine Parse.Gives.weaken ?_ _
      have head := signature_gives g (spelled_of_next hf hg)
      unfold prototypeAlone
      split
      · rename_i h
        rwa [h] at head
      · trivial
      · rename_i h
        rw [h] at head
        exact ⟨.declaration head.1, head.2⟩
  · exact hf

theorem bareExpression_gives (f : Feed) (hf : f.Spelled) :
    (bareExpression ops f).Gives IsStatement := by
  unfold bareExpression
  have body := expression_gives ops f hf
  split
  · rename_i h
    rwa [h] at body
  · trivial
  · rename_i h
    rw [h] at body
    exact ⟨.bare body.1, body.2⟩

/-- **What is parsed at the top is a statement.** -/
theorem statement_gives (f : Feed) (hf : f.Spelled) : (statement ops f).Gives IsStatement := by
  unfold statement
  split
  · exact definition_gives ops f hf
  · split
    · exact declaration_gives f hf
    · exact bareExpression_gives ops f hf

end Reckoner.Expr

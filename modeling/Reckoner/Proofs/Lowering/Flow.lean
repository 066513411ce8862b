import Reckoner.Proofs.IR.Valid
import Reckoner.Proofs.Lowering.Code

/-! Where code takes control, and what is known there.

Each fact is one induction on code. What is known at a place stays known behind it;
the targets of blocks are among the names taken, so code that takes other names does
not go there; and the operands of an instruction are known at its place. The blocks of
the whole function are held fixed in these inductions, as a phi is about blocks that
the code of a part does not contain. -/
namespace Reckoner.Lowering
open IR

variable {arity? : String → Option Nat} {names : List (String × Nat)}

def Piece.targets (c : Piece) : List String :=
  c.terminator.targets

/-- The names of a place that code ends at, and of the blocks before it. -/
def namesOf (bs : List Piece) (q : Point) : List String :=
  bs.flatMap (·.last.names) ++ q.names

theorem known_push (p : Point) (i : Instr) : (p.push i).known = p.known ++ [i.result] := by
  simp [Point.known, Point.push]

theorem known_subset_push (p : Point) (i : Instr) : p.known ⊆ (p.push i).known := by
  rw [known_push]
  exact List.subset_append_left _ _

theorem mem_known_push (p : Point) (i : Instr) : i.result ∈ (p.push i).known := by
  rw [known_push]
  exact List.mem_append_right _ List.mem_cons_self

theorem names_push (p : Point) (i : Instr) : (p.push i).names = p.names ++ [i.name] := by
  simp [Point.names, Point.push]

mutual

/-- What is known where code starts is known where it ends. -/
theorem Code.known_subset {p q : Point} {e : Expr} {v : Operand} {bs : List Piece}
    {ns : List String} : Code arity? names p e v bs q ns → p.known ⊆ q.known
  | .number | .var _ => List.Subset.refl _
  | .arithmetic _ lhs rhs =>
    List.Subset.trans (List.Subset.trans lhs.known_subset rhs.known_subset) (known_subset_push _ _)
  | .less _ lhs rhs =>
    List.Subset.trans (List.Subset.trans lhs.known_subset rhs.known_subset)
      (List.Subset.trans (known_subset_push _ _) (known_subset_push _ _))
  | .call _ _ args => List.Subset.trans args.known_subset (known_subset_push _ _)
  | .conditional c fork _ _ => by
    refine List.Subset.trans c.known_subset (List.Subset.trans ?_ (List.subset_append_left _ _))
    rw [fork]
    exact known_subset_push _ _

theorem CodeAll.known_subset {p q : Point} {es : List Expr} {vs : List Operand} {bs : List Piece}
    {ns : List String} : CodeAll arity? names p es vs bs q ns → p.known ⊆ q.known
  | .nil => List.Subset.refl _
  | .cons first others => List.Subset.trans first.known_subset others.known_subset

end

mutual

/-- Control goes only to blocks whose labels are taken by the code. -/
theorem Code.targets_subset {p q : Point} {e : Expr} {v : Operand} {bs : List Piece}
    {ns : List String} : Code arity? names p e v bs q ns → bs.flatMap Piece.targets ⊆ ns
  | .number | .var _ => List.nil_subset _
  | .arithmetic _ lhs rhs | .less _ lhs rhs => by
    have hl := lhs.targets_subset
    have hr := rhs.targets_subset
    rw [List.flatMap_append]
    grind
  | .call _ _ args => List.Subset.trans args.targets_subset (List.subset_append_left _ _)
  | .conditional c _ t e => by
    have hc := c.targets_subset
    have ht := t.targets_subset
    have he := e.targets_subset
    simp only [List.flatMap_append, List.flatMap_cons, List.flatMap_nil, Piece.targets,
      Terminator.targets]
    grind

theorem CodeAll.targets_subset {p q : Point} {es : List Expr} {vs : List Operand} {bs : List Piece}
    {ns : List String} : CodeAll arity? names p es vs bs q ns → bs.flatMap Piece.targets ⊆ ns
  | .nil => List.nil_subset _
  | .cons first others => by
    have hf := first.targets_subset
    have ho := others.targets_subset
    rw [List.flatMap_append]
    grind

end

mutual

/-- The names of the blocks of code are those in front of it and those that it takes. -/
theorem Code.names_perm {p q : Point} {e : Expr} {v : Operand} {bs : List Piece}
    {ns : List String} : Code arity? names p e v bs q ns → (namesOf bs q).Perm (p.names ++ ns)
  | .number | .var _ => by simp [namesOf]
  | .arithmetic _ lhs rhs => by
    have hl := lhs.names_perm
    have hr := rhs.names_perm
    rw [List.perm_iff_count] at *
    intro a
    have hla := hl a
    have hra := hr a
    simp only [namesOf, names_push, Instr.name, List.flatMap_append, List.count_append] at *
    omega
  | .less _ lhs rhs => by
    have hl := lhs.names_perm
    have hr := rhs.names_perm
    rw [List.perm_iff_count] at *
    intro a
    have hla := hl a
    have hra := hr a
    simp only [namesOf, names_push, Instr.name, List.flatMap_append, List.count_append,
      List.count_cons, List.count_nil] at *
    omega
  | .call _ _ args => by
    have ha := args.names_perm
    rw [List.perm_iff_count] at *
    intro a
    have haa := ha a
    simp only [namesOf, names_push, List.count_append, List.count_cons, Instr.name] at *
    omega
  | .conditional c fork t e => by
    have hc := c.names_perm
    have ht := t.names_perm
    have he := e.names_perm
    subst fork
    rw [List.perm_iff_count] at *
    intro a
    have hca := hc a
    have hta := ht a
    have hea := he a
    simp only [namesOf, Point.names, Point.push, Instr.name, List.flatMap_append, List.flatMap_cons,
      List.flatMap_nil, List.map_append, List.map_cons, List.map_nil, List.count_append,
      List.count_cons, List.count_nil] at *
    omega

theorem CodeAll.names_perm {p q : Point} {es : List Expr} {vs : List Operand} {bs : List Piece}
    {ns : List String} : CodeAll arity? names p es vs bs q ns →
      (namesOf bs q).Perm (p.names ++ ns)
  | .nil => by simp [namesOf]
  | .cons first others => by
    have hf := first.names_perm
    have ho := others.names_perm
    rw [List.perm_iff_count] at *
    intro a
    have hfa := hf a
    have hoa := ho a
    simp only [namesOf, List.flatMap_append, List.count_append] at *
    omega

end

theorem CodeAll.length_eq {p q : Point} {es : List Expr} {vs : List Operand} {bs : List Piece}
    {ns : List String} (h : CodeAll arity? names p es vs bs q ns) : vs.length = es.length := by
  induction es generalizing p vs bs ns with
  | nil =>
    cases h
    rfl
  | cons e rest ih =>
    cases h with
    | cons first others => rw [List.length_cons, List.length_cons, ih others]

theorem sources_push {p : Point} {i : Instr} (h : ∀ j ∈ p.instrs, j.HasSources) (hi : i.HasSources) :
    ∀ j ∈ (p.push i).instrs, j.HasSources :=
  List.forall_mem_append.mpr ⟨h, List.forall_mem_singleton.mpr hi⟩

mutual

/-- Each phi of code has operands. -/
theorem Code.sources {p q : Point} {e : Expr} {v : Operand} {bs : List Piece} {ns : List String} :
    Code arity? names p e v bs q ns → (∀ i ∈ p.instrs, i.HasSources) →
      (∀ c ∈ bs, ∀ i ∈ c.last.instrs, i.HasSources) ∧ ∀ i ∈ q.instrs, i.HasSources
  | .number, h | .var _, h => ⟨List.forall_mem_nil _, h⟩
  | .arithmetic _ lhs rhs, h => by
    obtain ⟨hl, mid⟩ := lhs.sources h
    obtain ⟨hr, last⟩ := rhs.sources mid
    exact ⟨List.forall_mem_append.mpr ⟨hl, hr⟩, sources_push last trivial⟩
  | .less _ lhs rhs, h => by
    obtain ⟨hl, mid⟩ := lhs.sources h
    obtain ⟨hr, last⟩ := rhs.sources mid
    exact ⟨List.forall_mem_append.mpr ⟨hl, hr⟩, sources_push (sources_push last trivial) trivial⟩
  | .call _ _ args, h => by
    obtain ⟨ha, last⟩ := args.sources h
    exact ⟨ha, sources_push last trivial⟩
  | .conditional c fork t e, h => by
    obtain ⟨hc, mid⟩ := c.sources h
    obtain ⟨ht, endT⟩ := t.sources (List.forall_mem_nil _)
    obtain ⟨he, endE⟩ := e.sources (List.forall_mem_nil _)
    refine ⟨List.forall_mem_append.mpr ⟨hc, List.forall_mem_cons.mpr ⟨?_, ?_⟩⟩, ?_⟩
    · subst fork
      exact sources_push mid trivial
    · refine List.forall_mem_append.mpr ⟨ht, List.forall_mem_cons.mpr ⟨endT, ?_⟩⟩
      exact List.forall_mem_append.mpr ⟨he, List.forall_mem_singleton.mpr endE⟩
    · exact List.forall_mem_singleton.mpr (List.cons_ne_nil _ _)

theorem CodeAll.sources {p q : Point} {es : List Expr} {vs : List Operand} {bs : List Piece}
    {ns : List String} : CodeAll arity? names p es vs bs q ns → (∀ i ∈ p.instrs, i.HasSources) →
      (∀ c ∈ bs, ∀ i ∈ c.last.instrs, i.HasSources) ∧ ∀ i ∈ q.instrs, i.HasSources
  | .nil, h => ⟨List.forall_mem_nil _, h⟩
  | .cons first others, h => by
    obtain ⟨hf, mid⟩ := first.sources h
    obtain ⟨ho, last⟩ := others.sources mid
    exact ⟨List.forall_mem_append.mpr ⟨hf, ho⟩, last⟩

end

mutual

/-- What is so at the ends of blocks, and before an instruction if it is so behind it, is
so where code starts if it is so where it ends. -/
theorem Code.backward {so : Point → Prop} (before : ∀ x i, so (x.push i) → so x) {p q : Point}
    {e : Expr} {v : Operand} {bs : List Piece} {ns : List String} :
    Code arity? names p e v bs q ns → (∀ c ∈ bs, so c.last) → so q → so p
  | .number, _, h | .var _, _, h => h
  | .arithmetic _ lhs rhs, ends, h => by
    obtain ⟨hl, hr⟩ := List.forall_mem_append.mp ends
    exact lhs.backward before hl (rhs.backward before hr (before _ _ h))
  | .less _ lhs rhs, ends, h => by
    obtain ⟨hl, hr⟩ := List.forall_mem_append.mp ends
    exact lhs.backward before hl (rhs.backward before hr (before _ _ (before _ _ h)))
  | .call _ _ args, ends, h => args.backward before ends (before _ _ h)
  | .conditional c fork _ _, ends, _ => by
    obtain ⟨hc, rest⟩ := List.forall_mem_append.mp ends
    have there := rest _ List.mem_cons_self
    dsimp only at there
    rw [fork] at there
    exact c.backward before hc (before _ _ there)

theorem CodeAll.backward {so : Point → Prop} (before : ∀ x i, so (x.push i) → so x) {p q : Point}
    {es : List Expr} {vs : List Operand} {bs : List Piece} {ns : List String} :
    CodeAll arity? names p es vs bs q ns → (∀ c ∈ bs, so c.last) → so q → so p
  | .nil, _, h => h
  | .cons first others, ends, h => by
    obtain ⟨hf, ho⟩ := List.forall_mem_append.mp ends
    exact first.backward before hf (others.backward before ho h)

end

/-! ### Within the whole function -/

/-- The block of a place is one of the blocks. -/
def Homed (all : List Piece) (x : Point) : Prop :=
  ∃ c ∈ all, c.last.label = x.label ∧ c.last.start = x.start

theorem Homed.push {all : List Piece} {x : Point} {i : Instr} (h : Homed all (x.push i)) :
    Homed all x := h

/-- The blocks of a conditional are those of its parts and the three that it ends. -/
theorem conditional_subset {all bs cs ds : List Piece} {F R S : Piece}
    (h : bs ++ F :: (cs ++ R :: (ds ++ [S])) ⊆ all) :
    bs ⊆ all ∧ F ∈ all ∧ cs ⊆ all ∧ R ∈ all ∧ ds ⊆ all ∧ S ∈ all := by
  obtain ⟨hb, rest⟩ := List.append_subset.mp h
  obtain ⟨hF, rest⟩ := List.cons_subset.mp rest
  obtain ⟨hc, rest⟩ := List.append_subset.mp rest
  obtain ⟨hR, rest⟩ := List.cons_subset.mp rest
  obtain ⟨hd, rest⟩ := List.append_subset.mp rest
  exact ⟨hb, hF, hc, hR, hd, (List.cons_subset.mp rest).1⟩

/-- The parts of a conditional take different names. -/
theorem conditional_nodup {ns ms ks : List String} {flag yes no join n : String}
    (nodup : (ns ++ [flag, yes, no, join] ++ ms ++ ks ++ [n]).Nodup) :
    ns.Nodup ∧ ms.Nodup ∧ ks.Nodup := by
  obtain ⟨front, -, -⟩ := List.nodup_append.mp nodup
  obtain ⟨front, hk, -⟩ := List.nodup_append.mp front
  obtain ⟨front, hm, -⟩ := List.nodup_append.mp front
  exact ⟨(List.nodup_append.mp front).1, hm, hk⟩

theorem homed_of_mem {all : List Piece} {c : Piece} (h : c ∈ all) : Homed all c.last :=
  ⟨c, h, rfl, rfl⟩

section
variable {all : List Piece}

/-- The block in which code starts is there if the one in which it ends is. -/
theorem Code.homed {p q : Point} {e : Expr} {v : Operand} {bs : List Piece} {ns : List String}
    (h : Code arity? names p e v bs q ns) (within : bs ⊆ all) : Homed all q → Homed all p :=
  h.backward (fun _ _ => Homed.push) fun _ hc => homed_of_mem (within hc)

theorem CodeAll.homed {p q : Point} {es : List Expr} {vs : List Operand} {bs : List Piece}
    {ns : List String} (h : CodeAll arity? names p es vs bs q ns) (within : bs ⊆ all) :
    Homed all q → Homed all p :=
  h.backward (fun _ _ => Homed.push) fun _ hc => homed_of_mem (within hc)

mutual

/-- Control reaches all of the blocks of code if it reaches the first. -/
theorem Code.reached {reach : String → Prop}
    (step : ∀ c ∈ all, reach c.last.label → ∀ t ∈ c.targets, reach t) {p q : Point} {e : Expr}
    {v : Operand} {bs : List Piece} {ns : List String} : Code arity? names p e v bs q ns →
      bs ⊆ all → reach p.label → (∀ c ∈ bs, reach c.last.label) ∧ reach q.label
  | .number, _, h | .var _, _, h => ⟨List.forall_mem_nil _, h⟩
  | .arithmetic _ lhs rhs, within, h | .less _ lhs rhs, within, h => by
    obtain ⟨hl, hr⟩ := List.append_subset.mp within
    obtain ⟨all₁, mid⟩ := lhs.reached step hl h
    obtain ⟨all₂, last⟩ := rhs.reached step hr mid
    exact ⟨List.forall_mem_append.mpr ⟨all₁, all₂⟩, last⟩
  | .call _ _ args, within, h => args.reached step within h
  | .conditional c fork t e, within, h => by
    obtain ⟨hb, hF, hc, hR, hd, -⟩ := conditional_subset within
    obtain ⟨all₁, atFork⟩ := c.reached step hb h
    replace atFork := (congrArg (reach ·.label) fork).mpr atFork
    have branches := step _ hF atFork
    obtain ⟨all₂, r⟩ := t.reached step hc (branches _ List.mem_cons_self)
    obtain ⟨all₃, s⟩ :=
      e.reached step hd (branches _ (List.mem_cons_of_mem _ List.mem_cons_self))
    refine ⟨?_, step _ hR r _ List.mem_cons_self⟩
    refine List.forall_mem_append.mpr ⟨all₁, List.forall_mem_cons.mpr ⟨atFork, ?_⟩⟩
    refine List.forall_mem_append.mpr ⟨all₂, List.forall_mem_cons.mpr ⟨r, ?_⟩⟩
    exact List.forall_mem_append.mpr ⟨all₃, List.forall_mem_singleton.mpr s⟩

theorem CodeAll.reached {reach : String → Prop}
    (step : ∀ c ∈ all, reach c.last.label → ∀ t ∈ c.targets, reach t) {p q : Point}
    {es : List Expr} {vs : List Operand} {bs : List Piece} {ns : List String} :
    CodeAll arity? names p es vs bs q ns →
      bs ⊆ all → reach p.label → (∀ c ∈ bs, reach c.last.label) ∧ reach q.label
  | .nil, _, h => ⟨List.forall_mem_nil _, h⟩
  | .cons first others, within, h => by
    obtain ⟨hf, ho⟩ := List.append_subset.mp within
    obtain ⟨all₁, mid⟩ := first.reached step hf h
    obtain ⟨all₂, last⟩ := others.reached step ho mid
    exact ⟨List.forall_mem_append.mpr ⟨all₁, all₂⟩, last⟩

end

/-- An operand of a type is known at a place, in a function with so many parameters. -/
inductive Point.Has (x : Point) (count : Nat) : Operand → Ty → Prop where
  | const (y : Double) : Has x count (.const y) .double
  | param {i : Nat} : i < count → Has x count (.param i) .double
  | result {n : String} {type : Ty} : (n, type) ∈ x.known → Has x count (.result n type) type

theorem Point.Has.mono {x y : Point} {count : Nat} {o : Operand} {type : Ty}
    (h : x.Has count o type) (more : x.known ⊆ y.known) : y.Has count o type := by
  cases h with
  | const z => exact .const z
  | param below => exact .param below
  | result known => exact .result (more known)

variable (arity? all) (count : Nat)

/-- An instruction fits its place in the function. -/
inductive Fits (x : Point) : Instr → Prop where
  | arithmetic {n : String} {op : Arithmetic} {l r : Operand} :
    x.Has count l .double → x.Has count r .double → Fits x (.arithmetic n op l r)
  | compare {n : String} {relation : Relation} {l r : Operand} :
    x.Has count l .double → x.Has count r .double → Fits x (.compare n relation l r)
  | widen {n : String} {o : Operand} : x.Has count o .flag → Fits x (.widen n o)
  | call {n callee : String} {args : List Operand} :
    arity? callee = some args.length → (∀ o ∈ args, x.Has count o .double) →
    Fits x (.call n callee args)
  | phi {n : String} {incoming : List (Operand × String)} :
    x.instrs = [] → (incoming.map Prod.snd).Nodup →
    (∀ l, l ∈ incoming.map Prod.snd ↔ ∃ c ∈ all, c.last.label = l ∧ x.label ∈ c.targets) →
    (∀ p ∈ incoming, ∃ c ∈ all, c.last.label = p.2 ∧ c.last.Has count p.1 .double) →
    Fits x (.phi n incoming)

/-- The instructions before a place all fit theirs. -/
def Point.Sound (x : Point) : Prop :=
  ∀ before i after, x.instrs = before ++ i :: after →
    Fits arity? all count { x with instrs := before } i

/-- A finished block is left for blocks of the function, and what is known at their
start is known at its end. -/
structure Piece.Sound (c : Piece) : Prop where
  last : c.last.Sound arity? all count
  targets : ∀ t ∈ c.targets, ∃ d ∈ all, d.last.label = t ∧ d.last.start ⊆ c.last.known
  value : ∀ o, c.terminator = .ret o → c.last.Has count o .double
  flag : ∀ o yes no, c.terminator = .branch o yes no → c.last.Has count o .flag

variable {arity? all count}

theorem Point.Sound.push {x : Point} {i : Instr} (h : x.Sound arity? all count)
    (fits : Fits arity? all count x i) : (x.push i).Sound arity? all count := by
  intro before j after split
  rcases List.eq_nil_or_concat after with rfl | ⟨after, k, rfl⟩
  · obtain ⟨rfl, same⟩ := List.append_inj' split rfl
    cases same
    exact fits
  · rw [List.concat_eq_append, ← List.cons_append, ← List.append_assoc] at split
    exact h before j after (List.append_inj' split rfl).1

theorem sound_start (label : String) (start : List (String × Ty)) :
    (Point.mk label start []).Sound arity? all count := by
  intro before i after split
  simp at split

/-- A block may jump to one that starts with no more than what is known. -/
theorem Point.Sound.jump {x join : Point} (h : x.Sound arity? all count) (home : Homed all join)
    (more : join.start ⊆ x.known) : Piece.Sound arity? all count ⟨x, .jump join.label⟩ := by
  refine ⟨h, fun l hl => ?_, nofun, nofun⟩
  obtain ⟨d, hd, label, start⟩ := home
  rw [List.mem_singleton.mp hl]
  exact ⟨d, hd, label, start ▸ more⟩

/-- A block may fork to two that start with what is known. -/
theorem Point.Sound.branch {x : Point} {flag yes no : String} (h : x.Sound arity? all count)
    (flagged : (flag, Ty.flag) ∈ x.known) (homeYes : Homed all ⟨yes, x.known, []⟩)
    (homeNo : Homed all ⟨no, x.known, []⟩) :
    Piece.Sound arity? all count ⟨x, .branch (.result flag .flag) yes no⟩ := by
  refine ⟨h, fun l hl => ?_, nofun, fun o _ _ ho => ?_⟩
  · have there : Homed all ⟨l, x.known, []⟩ := by
      rcases List.mem_cons.mp hl with rfl | hl
      · exact homeYes
      · rw [List.mem_singleton.mp hl]
        exact homeNo
    obtain ⟨d, hd, label, start⟩ := there
    exact ⟨d, hd, label, start ▸ List.Subset.refl _⟩
  · cases ho
    exact .result flagged

/-- Where two branches meet, and nothing else comes, their values are taken together. -/
theorem fits_meet {r s : Point} {start : List (String × Ty)} {join n : String} {y z : Operand}
    (hR : ⟨r, .jump join⟩ ∈ all) (hS : ⟨s, .jump join⟩ ∈ all) (differ : r.label ≠ s.label)
    (meet : ∀ c ∈ all, join ∈ c.targets → c = ⟨r, .jump join⟩ ∨ c = ⟨s, .jump join⟩)
    (hy : r.Has count y .double) (hz : s.Has count z .double) :
    Fits arity? all count ⟨join, start, []⟩ (.phi n [(y, r.label), (z, s.label)]) := by
  refine .phi rfl ?_ ?_ ?_
  · simpa using differ
  · intro l
    constructor
    · intro hl
      rcases List.mem_cons.mp hl with rfl | hl
      · exact ⟨_, hR, rfl, List.mem_cons_self⟩
      · rw [List.mem_singleton.mp hl]
        exact ⟨_, hS, rfl, List.mem_cons_self⟩
    · rintro ⟨d, hd, rfl, target⟩
      rcases meet d hd target with rfl | rfl
      · exact List.mem_cons_self
      · exact List.mem_cons_of_mem _ List.mem_cons_self
  · intro o ho
    rcases List.mem_cons.mp ho with rfl | ho
    · exact ⟨_, hR, rfl, hy⟩
    · rw [List.mem_singleton.mp ho]
      exact ⟨_, hS, rfl, hz⟩

/-- Branches end in different blocks. -/
theorem exits_ne {p q r s : Point} {t e : Expr} {y z : Operand} {cs ds : List Piece}
    {ns ms ks : List String} {flag join n : String} (ht : Code arity? names p t y cs r ms)
    (he : Code arity? names q e z ds s ks)
    (nodup : (ns ++ [flag, p.label, q.label, join] ++ ms ++ ks ++ [n]).Nodup) (hp : p.instrs = [])
    (hq : q.instrs = []) : r.label ≠ s.label := by
  have hr : r.label ∈ p.label :: ms := by
    have := ht.names_perm.subset (a := r.label) (by simp [namesOf, Point.names])
    simpa [Point.names, hp] using this
  have hs : s.label ∈ q.label :: ks := by
    have := he.names_perm.subset (a := s.label) (by simp [namesOf, Point.names])
    simpa [Point.names, hq] using this
  intro same
  have twice := List.nodup_iff_count.mp nodup r.label
  have inR := List.count_pos_iff.mpr hr
  have inS := List.count_pos_iff.mpr (same ▸ hs)
  simp only [List.count_append, List.count_cons, List.count_nil] at twice inR inS
  omega

/-- The blocks but for those of some code, which takes the names `ns`, are left for
others only. -/
def Apart (all bs : List Piece) (ns : List String) : Prop :=
  ∀ c ∈ all, c ∈ bs ∨ ∀ t ∈ c.targets, t ∉ ns

theorem Apart.part {bs cs : List Piece} {ns ms : List String} (h : Apart all bs ns)
    (names : ms ⊆ ns) (others : ∀ c ∈ bs, c ∈ cs ∨ ∀ t ∈ c.targets, t ∉ ms) : Apart all cs ms := by
  intro c hc
  rcases h c hc with hc | hc
  · exact others c hc
  · exact .inr fun t ht mem => hc t ht (names mem)

theorem not_mem_of_targets {cs : List Piece} {ns ms : List String}
    (targets : cs.flatMap Piece.targets ⊆ ns) (disjoint : ∀ x ∈ ns, x ∉ ms) :
    ∀ c ∈ cs, ∀ t ∈ c.targets, t ∉ ms :=
  fun c hc t ht => disjoint t (targets (List.mem_flatMap.mpr ⟨c, hc, ht⟩))

/-- A part of some code is apart from the rest, `xs` in front of it and `ys` behind it,
that goes to blocks with other names. -/
theorem Apart.middle {bs xs cs ys : List Piece} {ns ms rest : List String} (h : Apart all bs ns)
    (split : bs = xs ++ cs ++ ys) (names : ms ⊆ ns) (front : xs.flatMap Piece.targets ⊆ rest)
    (back : ys.flatMap Piece.targets ⊆ rest) (disjoint : ∀ x ∈ rest, x ∉ ms) : Apart all cs ms := by
  refine h.part names fun c mem => ?_
  rw [split, List.mem_append, List.mem_append] at mem
  rcases mem with (mem | mem) | mem
  · exact .inr (not_mem_of_targets front disjoint c mem)
  · exact .inl mem
  · exact .inr (not_mem_of_targets back disjoint c mem)

/-- Two codes one behind the other are apart from each other. -/
theorem Apart.both {bs cs : List Piece} {ns ms rest : List String}
    (h : Apart all (bs ++ cs) (ns ++ ms ++ rest)) (nodup : (ns ++ ms ++ rest).Nodup)
    (hb : bs.flatMap Piece.targets ⊆ ns) (hc : cs.flatMap Piece.targets ⊆ ms) :
    Apart all bs ns ∧ ns.Nodup ∧ Apart all cs ms ∧ ms.Nodup := by
  obtain ⟨front, -, -⟩ := List.nodup_append.mp nodup
  obtain ⟨hn, hm, disjoint⟩ := List.nodup_append.mp front
  refine ⟨?_, hn, ?_, hm⟩
  · exact @Apart.middle _ _ [] _ _ _ _ ms h rfl (fun x hx => by simp [hx]) (List.nil_subset _) hc
      fun x hx hx' => disjoint x hx' x hx rfl
  · exact @Apart.middle _ _ _ _ [] _ _ ns h (by simp) (fun x hx => by simp [hx]) hb (List.nil_subset _)
      fun x hx hx' => disjoint x hx x hx' rfl

/-- The blocks that a conditional ends, the fork `F` and the ends `R` and `S` of its
branches, go to its own blocks, and its parts to blocks of theirs. -/
structure Forks (bs cs ds : List Piece) (F R S : Piece) (ns ms ks : List String)
    (yes no join : String) : Prop where
  fork : F.targets = [yes, no]
  consequence : R.targets = [join]
  alternative : S.targets = [join]
  inCondition : bs.flatMap Piece.targets ⊆ ns
  inConsequence : cs.flatMap Piece.targets ⊆ ms
  inAlternative : ds.flatMap Piece.targets ⊆ ks

section Forks
variable {bs cs ds : List Piece} {F R S : Piece} {ns ms ks : List String}
  {flag yes no join n : String}

/-- The parts of a conditional are apart from each other. -/
theorem Apart.conditional
    (h : Apart all (bs ++ F :: (cs ++ R :: (ds ++ [S])))
      (ns ++ [flag, yes, no, join] ++ ms ++ ks ++ [n]))
    (nodup : (ns ++ [flag, yes, no, join] ++ ms ++ ks ++ [n]).Nodup)
    (forks : Forks bs cs ds F R S ns ms ks yes no join) :
    Apart all bs ns ∧ Apart all cs ms ∧ Apart all ds ks := by
  obtain ⟨fork, consequence, alternative, hb, hc, hd⟩ := forks
  refine ⟨?_, ?_, ?_⟩
  · refine @Apart.middle _ _ [] _ (F :: (cs ++ R :: (ds ++ [S]))) _ _ ([yes, no, join] ++ ms ++ ks) h
      rfl (by grind) (List.nil_subset _) ?_ ?_
    · simp only [List.flatMap_cons, List.flatMap_append, fork, consequence, alternative]
      grind
    · grind
  · refine @Apart.middle _ _ (bs ++ [F]) _ (R :: (ds ++ [S])) _ _ (ns ++ [yes, no, join] ++ ks) h
      (by simp) (by grind) ?_ ?_ ?_
    · simp only [List.flatMap_cons, List.flatMap_append, fork]
      grind
    · simp only [List.flatMap_cons, List.flatMap_append, consequence, alternative]
      grind
    · grind
  · refine @Apart.middle _ _ (bs ++ F :: (cs ++ [R])) _ [S] _ _ (ns ++ [yes, no, join] ++ ms) h
      (by simp) (by grind) ?_ ?_ ?_
    · simp only [List.flatMap_cons, List.flatMap_append, fork, consequence]
      grind
    · simp only [List.flatMap_cons, alternative]
      grind
    · grind

/-- Only the branches of a conditional end in the block where they meet. -/
theorem Apart.meet
    (h : Apart all (bs ++ F :: (cs ++ R :: (ds ++ [S])))
      (ns ++ [flag, yes, no, join] ++ ms ++ ks ++ [n]))
    (nodup : (ns ++ [flag, yes, no, join] ++ ms ++ ks ++ [n]).Nodup)
    (forks : Forks bs cs ds F R S ns ms ks yes no join) :
    ∀ c ∈ all, join ∈ c.targets → c = R ∨ c = S := by
  obtain ⟨fork, -, -, hb, hc, hd⟩ := forks
  obtain ⟨front, -, -⟩ := List.nodup_append.mp nodup
  obtain ⟨front, -, apartK⟩ := List.nodup_append.mp front
  obtain ⟨front, -, apartM⟩ := List.nodup_append.mp front
  obtain ⟨-, labels, apartN⟩ := List.nodup_append.mp front
  have here : join ∈ [flag, yes, no, join] := by simp
  have there := List.mem_append_right ns here
  intro c mem target
  rcases h c mem with mem | out
  · simp only [List.mem_append, List.mem_cons, List.not_mem_nil, or_false] at mem
    rcases mem with mem | rfl | mem | same | mem | same
    · exact absurd rfl (apartN join (hb (List.mem_flatMap.mpr ⟨c, mem, target⟩)) join here)
    · rw [fork] at target
      simp only [List.nodup_cons, List.mem_cons, List.not_mem_nil, or_false, not_or] at labels target
      rcases target with rfl | rfl
      · exact absurd rfl labels.2.1.2
      · exact absurd rfl labels.2.2.1
    · exact absurd rfl (apartM join there join (hc (List.mem_flatMap.mpr ⟨c, mem, target⟩)))
    · exact .inl same
    · exact absurd rfl (apartK join (List.mem_append_left ms there) join
        (hd (List.mem_flatMap.mpr ⟨c, mem, target⟩)))
    · exact .inr same
  · exact absurd (by simp) (out join target)

end Forks

mutual

/-- **Operands are known where code uses them**, and each phi is about the blocks from
which control comes, wherever in a function the code stands. -/
theorem Code.sound (scope : ∀ n i, names.lookup n = some i → i < count) {p q : Point} {e : Expr}
    {v : Operand} {bs : List Piece} {ns : List String} : Code arity? names p e v bs q ns →
      bs ⊆ all → Apart all bs ns → ns.Nodup → Homed all q → p.Sound arity? all count →
      (∀ c ∈ bs, c.Sound arity? all count) ∧ q.Sound arity? all count ∧ q.Has count v .double
  | .number, _, _, _, _, h => ⟨List.forall_mem_nil _, h, .const _⟩
  | .var found, _, _, _, _, h => ⟨List.forall_mem_nil _, h, .param (scope _ _ found)⟩
  | .arithmetic _ lhs rhs, within, apart, nodup, home, h => by
    obtain ⟨hl, hr⟩ := List.append_subset.mp within
    obtain ⟨al, nl, ar, nr⟩ := apart.both nodup lhs.targets_subset rhs.targets_subset
    obtain ⟨sl, sq, x⟩ := lhs.sound scope hl al nl (rhs.homed hr home.push) h
    obtain ⟨sr, sr', y⟩ := rhs.sound scope hr ar nr home.push sq
    exact ⟨List.forall_mem_append.mpr ⟨sl, sr⟩,
      sr'.push (.arithmetic (x.mono rhs.known_subset) y), .result (mem_known_push _ _)⟩
  | .less _ lhs rhs, within, apart, nodup, home, h => by
    obtain ⟨hl, hr⟩ := List.append_subset.mp within
    obtain ⟨al, nl, ar, nr⟩ := apart.both nodup lhs.targets_subset rhs.targets_subset
    obtain ⟨sl, sq, x⟩ := lhs.sound scope hl al nl (rhs.homed hr home.push.push) h
    obtain ⟨sr, sr', y⟩ := rhs.sound scope hr ar nr home.push.push sq
    exact ⟨List.forall_mem_append.mpr ⟨sl, sr⟩,
      (sr'.push (.compare (x.mono rhs.known_subset) y)).push (.widen (.result (mem_known_push _ _))),
      .result (mem_known_push _ _)⟩
  | .call _ arity args, within, apart, nodup, home, h => by
    have part : Apart all _ _ := apart.part (List.subset_append_left _ _) fun c hc => .inl hc
    obtain ⟨sa, sq, values⟩ :=
      args.sound scope within part (List.nodup_append.mp nodup).1 home.push h
    refine ⟨sa, sq.push (.call ?_ values), .result (mem_known_push _ _)⟩
    rw [arity, args.length_eq]
  | @Code.conditional _ _ p q fork r s _ _ _ _ x y z bs cs ds ns ms ks flag yes no join n c hfork t e,
      within, apart, nodup, home, h => by
    obtain ⟨hb, hF, hcs, hR, hds, hS⟩ := conditional_subset within
    have forks : Forks bs cs ds ⟨fork, .branch (.result flag .flag) yes no⟩ ⟨r, .jump join⟩
        ⟨s, .jump join⟩ ns ms ks yes no join :=
      ⟨rfl, rfl, rfl, c.targets_subset, t.targets_subset, e.targets_subset⟩
    obtain ⟨ab, ac, ad⟩ := apart.conditional nodup forks
    have meet := apart.meet nodup forks
    have differ := exits_ne t e nodup rfl rfl
    obtain ⟨nn, nm, nk⟩ := conditional_nodup nodup
    have homeQ : Homed all q := by
      have homeF : Homed all fork := homed_of_mem hF
      rw [hfork] at homeF
      exact homeF.push
    obtain ⟨sb, sq, value⟩ := c.sound scope hb ab nn homeQ h
    have sF : fork.Sound arity? all count := hfork ▸ sq.push (.compare value (.const _))
    obtain ⟨sc, sr, hy⟩ := t.sound scope hcs ac nm (homed_of_mem hR) (sound_start _ _)
    obtain ⟨sd, ss, hz⟩ := e.sound scope hds ad nk (homed_of_mem hS) (sound_start _ _)
    have fromYes := List.Subset.trans (List.subset_append_left fork.known []) t.known_subset
    have fromNo := List.Subset.trans (List.subset_append_left fork.known []) e.known_subset
    have flagged : (flag, Ty.flag) ∈ fork.known := by
      rw [hfork]
      exact mem_known_push _ _
    refine ⟨?_, (sound_start join fork.known).push (fits_meet hR hS differ meet hy hz),
      .result (List.mem_append_right _ List.mem_cons_self)⟩
    refine List.forall_mem_append.mpr ⟨sb, List.forall_mem_cons.mpr ⟨?_, ?_⟩⟩
    · exact sF.branch flagged (t.homed hcs (homed_of_mem hR)) (e.homed hds (homed_of_mem hS))
    refine List.forall_mem_append.mpr ⟨sc, List.forall_mem_cons.mpr ⟨sr.jump home fromYes, ?_⟩⟩
    exact List.forall_mem_append.mpr ⟨sd, List.forall_mem_singleton.mpr (ss.jump home fromNo)⟩

theorem CodeAll.sound (scope : ∀ n i, names.lookup n = some i → i < count) {p q : Point}
    {es : List Expr} {vs : List Operand} {bs : List Piece} {ns : List String} :
    CodeAll arity? names p es vs bs q ns →
      bs ⊆ all → Apart all bs ns → ns.Nodup → Homed all q → p.Sound arity? all count →
      (∀ c ∈ bs, c.Sound arity? all count) ∧ q.Sound arity? all count ∧
        ∀ v ∈ vs, q.Has count v .double
  | .nil, _, _, _, _, h => ⟨List.forall_mem_nil _, h, List.forall_mem_nil _⟩
  | .cons first others, within, apart, nodup, home, h => by
    obtain ⟨hf, ho⟩ := List.append_subset.mp within
    have whole : ∀ l : List String, l ++ [] = l := List.append_nil
    obtain ⟨af, nf, ao, no⟩ := @Apart.both _ _ _ _ _ [] (by rwa [whole]) (by rwa [whole])
      first.targets_subset others.targets_subset
    obtain ⟨sf, sq, x⟩ := first.sound scope hf af nf (others.homed ho home) h
    obtain ⟨so, sr, xs⟩ := others.sound scope ho ao no home sq
    exact ⟨List.forall_mem_append.mpr ⟨sf, so⟩, sr,
      List.forall_mem_cons.mpr ⟨x.mono others.known_subset, xs⟩⟩

end

end

end Reckoner.Lowering

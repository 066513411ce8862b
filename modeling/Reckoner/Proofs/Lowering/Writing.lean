import Reckoner.Proofs.Lowering.Code
import Reckoner.Proofs.Token.Characters

/-! Writing a function.

A function under construction is looked at as its blocks in any order
(`Site.Holds`), or as the place where instructions are added and the other blocks
(`Site.At`). Each step of writing changes the one block that it is about, takes new
names only, and leaves the rest as it was. What all of them keep of the function is
`Site.Grows`. -/
namespace Reckoner

namespace IR

/-- The names that a block takes. -/
def Block.names (b : Block) : List String :=
  b.label :: b.instrs.map Instr.name

namespace Function

theorem localNames_perm {f : Function} {bs : List Block} (h : f.blocks.Perm bs) :
    f.localNames.Perm (f.shownParams ++ bs.flatMap Block.names) := by
  have split (l : List Block) : (l.map Block.label ++ l.flatMap fun b => b.instrs.map Instr.name).Perm
      (l.flatMap Block.names) := by
    induction l with
    | nil => exact .nil
    | cons b rest ih =>
      simp only [List.map_cons, List.flatMap_cons, Block.names, List.cons_append]
      refine .cons _ ?_
      rw [← List.append_assoc]
      refine (List.perm_append_comm.append_right _).trans ?_
      rw [List.append_assoc]
      exact ih.append_left _
  rw [localNames, List.append_assoc]
  exact ((split f.blocks).trans (h.flatMap_right _)).append_left _

theorem localNames_added {f g : Function} {bs cs : List Block} (new : List String)
    (hf : f.blocks.Perm bs) (hg : g.blocks.Perm cs) (shown : g.shownParams = f.shownParams)
    (names : (cs.flatMap Block.names).Perm (new ++ bs.flatMap Block.names)) :
    g.localNames.Perm (new ++ f.localNames) := by
  refine (localNames_perm hg).trans ?_
  rw [shown]
  refine (names.append_left _).trans ?_
  rw [← List.append_assoc]
  refine (List.perm_append_comm.append_right _).trans ?_
  rw [List.append_assoc]
  exact (localNames_perm hf).symm.append_left _

/-- Names stay distinct where a function takes new ones only. -/
theorem Named.extend {f g : Function} {new : List String} (h : f.Named) (params : g.params = f.params)
    (names : g.localNames.Perm (new ++ f.localNames)) (nodup : new.Nodup)
    (fresh : ∀ x ∈ new, x ∉ f.scope.used ∧ x ∈ g.scope.used)
    (used : f.scope.used ⊆ g.scope.used) : g.Named := by
  refine ⟨params ▸ h.params_nodup, params ▸ List.Subset.trans h.params_used used, ?_, ?_⟩
  · rw [names.nodup_iff]
    refine List.nodup_append.mpr ⟨nodup, h.nodup, fun x hx y hy same => ?_⟩
    exact (fresh x hx).1 (h.used (same ▸ hy))
  · intro x hx
    rcases List.mem_append.mp (names.subset hx) with hx | hx
    · exact (fresh x hx).2
    · exact used (h.used hx)

theorem Named.labels_nodup {f : Function} (h : f.Named) : f.labels.Nodup := by
  have := h.nodup
  rw [localNames, List.append_assoc] at this
  exact (List.nodup_append.mp (List.nodup_append.mp this).2.1).1

/-- A change of one block leaves the others as they are. -/
theorem modifyBlock_perm {f : Function} {b : Block} {rest : List Block} {label : String}
    (h : f.blocks.Perm (b :: rest)) (nodup : f.labels.Nodup) (same : label = b.label)
    (change : Block → Block) : (f.modifyBlock label change).blocks.Perm (change b :: rest) := by
  subst same
  have distinct : (b :: rest).Pairwise fun x y => x.label ≠ y.label := by
    have := (h.map Block.label).nodup_iff.mp nodup
    exact List.pairwise_map.mp this
  have others : (rest.map fun x => if x.label = b.label then change x else x) = rest := by
    have same : ∀ x ∈ rest, (if x.label = b.label then change x else x) = x := fun x hx =>
      if_neg (List.rel_of_pairwise_cons distinct hx).symm
    rw [List.map_congr_left same, List.map_id']
  have moved := h.map fun x => if x.label = b.label then change x else x
  rw [List.map_cons, if_pos rfl, others] at moved
  exact moved

theorem labels_modifyBlock (f : Function) (label : String) {change : Block → Block}
    (same : ∀ b, (change b).label = b.label) : (f.modifyBlock label change).labels = f.labels := by
  simp only [labels, modifyBlock, List.map_map]
  refine List.map_congr_left fun b _ => ?_
  by_cases h : b.label = label <;> simp [h, same]

end Function

end IR

namespace Lowering
open IR

/-- The names that lowering gives to blocks and results. -/
def ownNames : List String :=
  ["entry", "then", "else", "ifcont", "ifcond", "iftmp", "addtmp", "subtmp", "multmp", "cmptmp",
    "booltmp", "calltmp"]

/-- A name made of letters, digits and points. -/
def IsDotted (name : String) : Prop :=
  ∀ c ∈ name.toList, c.isAlphanum = true ∨ c = '.'

instance (name : String) : Decidable (IsDotted name) :=
  List.decidableBAll _ name.toList

theorem isDotted_fresh (s : Scope) {base : String} (h : IsDotted base) :
    IsDotted (s.fresh base).1 :=
  s.fresh_chars h (.inr rfl) fun _ digit => .inl (isAlphanum_of_isDigit digit)

/-- A name that lowering makes up, or one with a number. -/
structure IsMade (name : String) : Prop where
  own : name ∈ ownNames ∨ '.' ∈ name.toList
  dotted : IsDotted name

theorem isMade_of_fresh {s : Scope} {base : String} (own : base ∈ ownNames) :
    ∀ x ∈ (s.fresh base).2.used, x ∈ s.used ∨ IsMade x := by
  have dotted : ∀ base ∈ ownNames, IsDotted base := by decide
  intro x used
  rcases (s.mem_used_fresh base x).mp used with rfl | old
  · refine .inr ⟨?_, isDotted_fresh s (dotted base own)⟩
    rcases s.fresh_eq_or base with same | ⟨n, same⟩
    · exact .inl (by rwa [same])
    · exact .inr (by rw [same]; exact Scope.point_mem_numbered base n)
  · exact .inl old

namespace Site

/-- What every step of writing keeps of a function and its site. Names are not
forgotten, and only names that are made up are new; blocks are added at the end. -/
structure Grows (s t : Site) : Prop where
  names : t.names = s.names
  name : t.function.name = s.function.name
  params : t.function.params = s.function.params
  printed : t.function.printed = s.function.printed
  used : s.function.scope.used ⊆ t.function.scope.used
  made : ∀ x ∈ t.function.scope.used, x ∈ s.function.scope.used ∨ IsMade x
  labels : s.function.labels <+: t.function.labels

theorem Grows.refl (s : Site) : s.Grows s :=
  ⟨rfl, rfl, rfl, rfl, List.Subset.refl _, fun _ => .inl, List.prefix_refl _⟩

theorem Grows.trans {s t u : Site} (h : s.Grows t) (k : t.Grows u) : s.Grows u :=
  ⟨k.names.trans h.names, k.name.trans h.name, k.params.trans h.params,
    k.printed.trans h.printed, List.Subset.trans h.used k.used,
    fun x used => (k.made x used).elim (h.made x) .inr, h.labels.trans k.labels⟩

/-- The blocks of the function being written, in any order. -/
structure Holds (s : Site) (bs : List Block) : Prop where
  blocks : s.function.blocks.Perm bs
  named : s.function.Named

theorem Holds.perm {s : Site} {bs cs : List Block} (h : s.Holds bs) (same : bs.Perm cs) :
    s.Holds cs :=
  ⟨h.blocks.trans same, h.named⟩

/-- The place where instructions are added, and the blocks besides. -/
structure At (s : Site) (p : Point) (rest : List Block) : Prop where
  block : s.block = p.label
  holds : s.Holds (p.block :: rest)

theorem At.perm {s : Site} {p : Point} {bs cs : List Block} (h : s.At p bs) (same : bs.Perm cs) :
    s.At p cs :=
  ⟨h.block, h.holds.perm (same.cons _)⟩

/-- The site after an instruction has been added. -/
def appended (s : Site) (base : String) (instr : String → Instr) : Site :=
  { s with function := (s.function.append s.block base instr).2 }

/-- The name of the next result or block. -/
def fresh (s : Site) (base : String) : String :=
  (s.function.scope.fresh base).1

theorem At.appended {s : Site} {p : Point} {rest : List Block} (h : s.At p rest) {base : String}
    (own : base ∈ ownNames) {instr : String → Instr}
    (name : (instr (s.fresh base)).name = s.fresh base) :
    (s.appended base instr).At (p.push (instr (s.fresh base))) rest ∧
      s.Grows (s.appended base instr) := by
  have blocks : (s.appended base instr).function.blocks.Perm
      ((p.push (instr (s.fresh base))).block :: rest) :=
    Function.modifyBlock_perm h.holds.blocks h.holds.named.labels_nodup h.block
      fun b => { b with instrs := b.instrs ++ [instr (s.fresh base)] }
  have named : (s.appended base instr).function.Named := by
    refine h.holds.named.extend rfl
      (Function.localNames_added [s.fresh base] h.holds.blocks blocks rfl ?_)
      (List.pairwise_singleton _ _) ?_ (s.function.scope.used_subset_fresh base)
    · simp only [List.flatMap_cons, Block.names, Point.block, Point.push, List.map_append,
        List.map_cons, name, List.map_nil, List.cons_append, List.append_assoc, List.nil_append]
      exact (List.perm_middle.cons _).trans (.swap _ _ _)
    · intro x hx
      rw [List.mem_singleton.mp hx]
      exact ⟨s.function.scope.fresh_not_mem base, s.function.scope.fresh_mem_used base⟩
  have labels : (s.appended base instr).function.labels = s.function.labels :=
    Function.labels_modifyBlock _ _ fun _ => rfl
  exact ⟨⟨h.block, blocks, named⟩, rfl, rfl, rfl, rfl, s.function.scope.used_subset_fresh base,
    isMade_of_fresh own, labels ▸ List.prefix_refl _⟩

/-- The site after an empty block has been added. -/
def withBlock (s : Site) (base : String) : Site :=
  { s with function := (s.function.addBlock base).2 }

theorem Holds.withBlock {s : Site} {bs : List Block} (h : s.Holds bs) {base : String}
    (own : base ∈ ownNames) :
    (s.withBlock base).Holds ({ label := s.fresh base } :: bs) ∧ s.Grows (s.withBlock base) := by
  have blocks : (s.withBlock base).function.blocks.Perm ({ label := s.fresh base } :: bs) :=
    (h.blocks.append_right [_]).trans (List.perm_append_singleton _ _)
  have named : (s.withBlock base).function.Named := by
    refine h.named.extend rfl
      (Function.localNames_added [s.fresh base] h.blocks blocks rfl (.refl _))
      (List.pairwise_singleton _ _) ?_ (s.function.scope.used_subset_fresh base)
    intro x hx
    rw [List.mem_singleton.mp hx]
    exact ⟨s.function.scope.fresh_not_mem base, s.function.scope.fresh_mem_used base⟩
  refine ⟨⟨blocks, named⟩, rfl, rfl, rfl, rfl, s.function.scope.used_subset_fresh base,
    isMade_of_fresh own, ?_⟩
  simp only [Function.labels, Site.withBlock, Function.addBlock, List.map_append]
  exact List.prefix_append _ _

theorem At.withBlock {s : Site} {p : Point} {rest : List Block} (h : s.At p rest) {base : String}
    (own : base ∈ ownNames) :
    (s.withBlock base).At p ({ label := s.fresh base } :: rest) ∧ s.Grows (s.withBlock base) := by
  obtain ⟨holds, grows⟩ := h.holds.withBlock own
  exact ⟨⟨h.block, holds.perm (.swap _ _ _)⟩, grows⟩

/-- The site after its block has been ended. -/
def ended (s : Site) (t : Terminator) : Site :=
  { s with function := s.function.terminate s.block t }

theorem At.ended {s : Site} {p : Point} {rest : List Block} (h : s.At p rest) (t : Terminator) :
    (s.ended t).Holds ((Piece.mk p t).block :: rest) ∧ s.Grows (s.ended t) := by
  have blocks : (s.ended t).function.blocks.Perm ((Piece.mk p t).block :: rest) :=
    Function.modifyBlock_perm h.holds.blocks h.holds.named.labels_nodup h.block
      fun b => { b with terminator := some t }
  have named : (s.ended t).function.Named :=
    h.holds.named.extend rfl
      (Function.localNames_added [] h.holds.blocks blocks rfl (.refl _))
      .nil (fun x hx => by cases hx) (List.Subset.refl _)
  have labels : (s.ended t).function.labels = s.function.labels :=
    Function.labels_modifyBlock _ _ fun _ => rfl
  exact ⟨⟨blocks, named⟩, rfl, rfl, rfl, rfl, List.Subset.refl _, fun _ => .inl,
    labels ▸ List.prefix_refl _⟩

/-- Instructions go to an empty block from now on, at whose start some results are
known. -/
theorem Holds.enter {s : Site} {label : String} {rest : List Block}
    (h : s.Holds ({ label } :: rest)) (start : List (String × Ty)) :
    { s with block := label : Site }.At { label, start } rest :=
  ⟨rfl, h.blocks, h.named⟩

theorem grows_enter (s : Site) (label : String) : s.Grows { s with block := label } :=
  ⟨rfl, rfl, rfl, rfl, List.Subset.refl _, fun _ => .inl, List.prefix_refl _⟩

end Site

end Lowering

end Reckoner

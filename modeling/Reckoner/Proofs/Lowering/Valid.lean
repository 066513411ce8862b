import Mathlib.Data.List.Nodup
import Mathlib.Data.List.Pairwise
import Reckoner.Proofs.Lowering.Flow
import Reckoner.Proofs.Lowering.Program

/-! Modules that statements lead to are valid.

A function that implements a definition consists of the blocks of its code and of
nothing else (`Whole`). What its code knows at the start of a block has been computed
on every walk there, so the results that are used dominate their uses, and the
function is valid (`Implements.valid`). -/
namespace Reckoner.Lowering
open IR

/-- The blocks of a function, as code describes them. -/
structure Whole (f : Function) (all : List Piece) : Prop where
  blocks : f.blocks.Perm (all.map Piece.block)
  names : (all.flatMap (·.last.names)).Nodup

namespace Whole
variable {f : Function} {all : List Piece}

theorem labels_nodup (h : Whole f all) : (all.map (·.last.label)).Nodup := by
  refine h.names.sublist ?_
  have (l : List Piece) : (l.map (·.last.label)).Sublist (l.flatMap (·.last.names)) := by
    induction l with
    | nil => exact .slnil
    | cons c rest ih => exact .cons_cons _ (ih.trans (List.sublist_append_right _ _))
  exact this all

/-- A block is known by its label. -/
theorem eq_of_label (h : Whole f all) {c d : Piece} (hc : c ∈ all) (hd : d ∈ all)
    (same : c.last.label = d.last.label) : c = d :=
  List.inj_on_of_nodup_map h.labels_nodup hc hd same

/-- A result is known by its name. -/
theorem eq_of_name (h : Whole f all) {c d : Piece} (hc : c ∈ all) (hd : d ∈ all) {n : String}
    (inC : n ∈ c.last.instrs.map Instr.name) (inD : n ∈ d.last.instrs.map Instr.name) : c = d := by
  have disjoint := (List.nodup_flatMap.mp h.names).2
  have : Std.Symm (Function.onFun List.Disjoint fun c : Piece => c.last.names) :=
    ⟨fun _ _ h _ inC inD => h inD inC⟩
  refine Classical.byContradiction fun ne => ?_
  have apart := disjoint.forall hc hd ne
  exact apart (List.mem_cons_of_mem _ inC) (List.mem_cons_of_mem _ inD)

theorem mem_blocks (h : Whole f all) {b : Block} :
    b ∈ f.blocks ↔ ∃ c ∈ all, c.block = b := by
  rw [h.blocks.mem_iff, List.mem_map]

theorem edge_iff (h : Whole f all) {l k : String} :
    f.Edge l k ↔ ∃ c ∈ all, c.last.label = l ∧ k ∈ c.targets := by
  constructor
  · rintro ⟨b, hb, label, t, ended, target⟩
    obtain ⟨c, hc, rfl⟩ := h.mem_blocks.mp hb
    cases ended
    exact ⟨c, hc, label, target⟩
  · rintro ⟨c, hc, label, target⟩
    exact ⟨c.block, h.mem_blocks.mpr ⟨c, hc, rfl⟩, label, c.terminator, rfl, target⟩

theorem mem_labels (h : Whole f all) {l : String} : l ∈ f.labels ↔ ∃ c ∈ all, c.last.label = l := by
  rw [Function.labels, List.mem_map]
  constructor
  · rintro ⟨b, hb, rfl⟩
    obtain ⟨c, hc, rfl⟩ := h.mem_blocks.mp hb
    exact ⟨c, hc, rfl⟩
  · rintro ⟨c, hc, rfl⟩
    exact ⟨c.block, h.mem_blocks.mpr ⟨c, hc, rfl⟩, rfl⟩

end Whole

/-- The blocks of a function whose code is in order: nothing is known at the start of the
first one, control reaches each, and each is sound. -/
structure Flows (arity? : String → Option Nat) (f : Function) (all : List Piece) : Prop
    extends Whole f all where
  first : ∀ c ∈ all, f.labels.head? = some c.last.label → c.last.start = []
  reached : ∀ c ∈ all, ∃ passed, f.Walk passed c.last.label
  sound : ∀ c ∈ all, c.Sound arity? all f.arity
  entry : ∀ l, f.labels.head? = some l → ∀ c ∈ all, l ∉ c.targets

namespace Flows
variable {arity? : String → Option Nat} {f : Function} {all : List Piece}

/-- What is known at the start of a block has been computed on every walk to it. -/
theorem passed (h : Flows arity? f all) {passed : List String} {l : String} (walk : f.Walk passed l) :
    ∀ c ∈ all, c.last.label = l → ∀ r ∈ c.last.start,
      ∃ d ∈ all, r ∈ d.last.instrs.map Instr.result ∧ d.last.label ∈ passed := by
  induction walk with
  | entry head =>
    rintro c hc rfl r hr
    rw [h.first c hc head] at hr
    cases hr
  | step _ edge ih =>
    rintro c hc rfl r hr
    obtain ⟨d, hd, rfl, target⟩ := h.edge_iff.mp edge
    obtain ⟨c', hc', label, known⟩ := (h.sound d hd).targets _ target
    rw [h.eq_of_label hc' hc label] at known
    rcases List.mem_append.mp (known hr) with hr | hr
    · obtain ⟨k, hk, computed, before⟩ := ih d hd rfl r hr
      exact ⟨k, hk, computed, List.mem_cons_of_mem _ before⟩
    · exact ⟨d, hd, hr, List.mem_cons_self⟩

/-- The block of a result that is known at the start of another one dominates it. -/
theorem dominates (h : Flows arity? f all) {c : Piece} (hc : c ∈ all) {r : String × Ty}
    (hr : r ∈ c.last.start) :
    ∃ d ∈ all, r ∈ d.last.instrs.map Instr.result ∧ f.Dominates d.last.label c.last.label := by
  obtain ⟨passed, walk⟩ := h.reached c hc
  obtain ⟨d, hd, computed, -⟩ := h.passed walk c hc rfl r hr
  refine ⟨d, hd, computed, fun others walk' => ?_⟩
  obtain ⟨k, hk, computed', before⟩ := h.passed walk' c hc rfl r hr
  have name {x : Piece} (hx : r ∈ x.last.instrs.map Instr.result) :
      r.1 ∈ x.last.instrs.map Instr.name := by
    obtain ⟨i, hi, rfl⟩ := List.mem_map.mp hx
    exact List.mem_map_of_mem hi
  rwa [h.eq_of_name hd hk (name computed) (name computed')]

/-- What is known to the code is known in the function. -/
theorem known (h : Flows arity? f all) {c : Piece} (hc : c ∈ all) {before : List Instr} {o : Operand}
    {type : Ty} (has : { c.last with instrs := before : Point }.Has f.arity o type) :
    f.Known c.last.label before o type := by
  cases has with
  | const x => exact .const x
  | param below => exact .param below
  | @result n type known =>
    rcases List.mem_append.mp known with known | known
    · obtain ⟨d, hd, computed, dominates⟩ := h.dominates hc known
      obtain ⟨i, hi, same⟩ := List.mem_map.mp computed
      cases same
      exact .above (h.mem_blocks.mpr ⟨d, hd, rfl⟩) hi dominates
    · obtain ⟨i, hi, same⟩ := List.mem_map.mp known
      cases same
      exact .here hi

/-- The instructions of the blocks are valid if the calls are. -/
theorem instr_valid (h : Flows arity? f all) {m : Module} (calls : arity? = m.arity?) {c : Piece}
    (hc : c ∈ all) {before after : List Instr} {i : Instr}
    (split : c.last.instrs = before ++ i :: after) : i.Valid m f c.last.label before := by
  have fits := (h.sound c hc).last before i after split
  cases fits with
  | arithmetic l r => exact .arithmetic (h.known hc l) (h.known hc r)
  | compare l r => exact .compare (h.known hc l) (h.known hc r)
  | widen o => exact .widen (h.known hc o)
  | call arity args =>
    rw [calls] at arity
    obtain ⟨g, found, count⟩ := Option.map_eq_some_iff.mp arity
    exact .call found count.symm fun x hx => h.known hc (args x hx)
  | @phi n incoming first nodup sources operands =>
    have first : before = [] := first
    refine .phi (fun i hi => by rw [first] at hi; cases hi) nodup (fun l => ?_) fun p hp => ?_
    · rw [sources l, h.edge_iff]
    · obtain ⟨d, hd, label, known⟩ := operands p hp
      exact ⟨d.block, h.mem_blocks.mpr ⟨d, hd, rfl⟩, label, h.known hd known⟩

theorem terminator_valid (h : Flows arity? f all) {c : Piece} (hc : c ∈ all) :
    c.terminator.Valid f c.block where
  targets := by
    intro l hl
    obtain ⟨d, hd, label, -⟩ := (h.sound c hc).targets l hl
    exact h.mem_labels.mpr ⟨d, hd, label⟩
  value := fun x hx => h.known hc ((h.sound c hc).value x hx)
  flag := fun x yes no hx => h.known hc ((h.sound c hc).flag x yes no hx)

theorem valid {m : Module} (h : Flows m.arity? f all) (named : f.Named) : f.Valid m where
  names := named.nodup
  blocks := by
    intro b hb
    obtain ⟨c, hc, rfl⟩ := h.mem_blocks.mp hb
    exact ⟨⟨c.terminator, rfl, h.terminator_valid hc⟩, fun before i after split =>
      h.instr_valid rfl hc split⟩
  entry := by
    intro l head k edge
    obtain ⟨c, hc, -, target⟩ := h.edge_iff.mp edge
    exact h.entry l head c hc target

end Flows

/-- The blocks of a definition are those of its code, and nothing is named twice. -/
theorem Implements.whole {arity? : String → Option Nat} {f : Function} {d : Definition}
    (h : Implements arity? f d) (named : f.Named) :
    ∃ entry v bs q ns, Code arity? d.params.zipIdx.reverse ⟨entry, [], []⟩ d.body v bs q ns ∧
      Whole f (⟨q, .ret v⟩ :: bs) ∧ (entry :: ns).Nodup ∧ f.labels.head? = some entry := by
  obtain ⟨entry, v, bs, q, ns, code, blocks, head⟩ := h.code
  have names : (bs.flatMap (·.last.names) ++ q.names).Nodup := by
    have inBlocks := (Function.localNames_perm blocks).nodup_iff.mp named.nodup
    have := (List.nodup_append.mp inBlocks).2.1
    rw [List.flatMap_map] at this
    rw [List.nodup_append_comm]
    exact this
  refine ⟨entry, v, bs, q, ns, code, ⟨blocks, ?_⟩, code.names_perm.nodup_iff.mp names, head⟩
  rw [List.flatMap_cons, List.nodup_append_comm]
  exact names

/-- Names in scope stand for parameters. -/
theorem lt_of_lookup {params : List String} {n : String} {i : Nat}
    (found : params.zipIdx.reverse.lookup n = some i) : i < params.length := by
  obtain ⟨front, back, split, -⟩ := List.lookup_eq_some_iff.mp found
  have mem : (n, i) ∈ params.zipIdx.reverse := by simp [split]
  exact List.snd_lt_of_mem_zipIdx (List.mem_reverse.mp mem)

/-- The blocks of a definition are in order. -/
theorem Implements.flows {arity? : String → Option Nat} {f : Function} {d : Definition}
    (h : Implements arity? f d) (named : f.Named) : ∃ all, Flows arity? f all := by
  obtain ⟨entry, v, bs, q, ns, code, whole, taken, head⟩ := h.whole named
  let last : Piece := ⟨q, .ret v⟩
  have within : bs ⊆ last :: bs := List.subset_cons_self _ _
  have scope : ∀ n i, d.params.zipIdx.reverse.lookup n = some i → i < f.arity :=
    fun n i found => h.arity ▸ lt_of_lookup found
  have apart : Apart (last :: bs) bs ns := by
    intro c hc
    rcases List.mem_cons.mp hc with rfl | hc
    · exact .inr fun t ht => by cases ht
    · exact .inl hc
  have sound := code.sound scope within apart (List.nodup_cons.mp taken).2
    (homed_of_mem (List.mem_cons_self (a := last))) (sound_start _ _)
  have targets : ∀ c ∈ last :: bs, ∀ t ∈ c.targets, t ∈ ns := by
    intro c hc t ht
    rcases List.mem_cons.mp hc with rfl | hc
    · cases ht
    · exact code.targets_subset (List.mem_flatMap.mpr ⟨c, hc, ht⟩)
  have home := code.homed within (homed_of_mem (List.mem_cons_self (a := last)))
  refine ⟨last :: bs, whole, ?_, ?_, ?_, ?_⟩
  · intro c hc here
    obtain ⟨k, hk, label, start⟩ := home
    rw [head, Option.some.injEq] at here
    rw [← whole.eq_of_label hk hc (label.trans here), start]
  · have step : ∀ c ∈ last :: bs, (∃ passed, f.Walk passed c.last.label) →
        ∀ t ∈ c.targets, ∃ passed, f.Walk passed t := by
      rintro c hc ⟨passed, walk⟩ t ht
      exact ⟨_, walk.step (whole.edge_iff.mpr ⟨c, hc, rfl, ht⟩)⟩
    obtain ⟨all, final⟩ :=
      @Code.reached _ _ _ (fun l => ∃ passed, f.Walk passed l) step _ _ _ _ _ _ code within
        ⟨[], .entry head⟩
    exact List.forall_mem_cons.mpr ⟨final, all⟩
  · refine List.forall_mem_cons.mpr ⟨⟨sound.2.1, nofun, fun o ho => ?_, nofun⟩, sound.1⟩
    cases ho
    exact sound.2.2
  · intro l first c hc target
    rw [head, Option.some.injEq] at first
    subst first
    exact (List.nodup_cons.mp taken).1 (targets c hc _ target)

/-- Each phi of a definition has operands. -/
theorem Implements.sources {arity? : String → Option Nat} {f : Function} {d : Definition}
    (h : Implements arity? f d) : ∀ b ∈ f.blocks, ∀ i ∈ b.instrs, i.HasSources := by
  obtain ⟨entry, v, bs, q, ns, code, blocks, -⟩ := h.code
  obtain ⟨finished, last⟩ := code.sources (List.forall_mem_nil _)
  intro b hb
  obtain ⟨c, hc, rfl⟩ := List.mem_map.mp (blocks.mem_iff.mp hb)
  rcases List.mem_cons.mp hc with rfl | hc
  · exact last
  · exact finished c hc

section Settled
variable {P : Program} {m : Module}

/-- A function with a body implements one of the definitions taken. -/
theorem Settled.implements (h : Settled P m) {f : Function} (hf : f ∈ m.functions)
    (body : f.blocks ≠ []) : ∃ d ∈ P, Implements m.arity? f d := by
  obtain ⟨d, hd, name⟩ := h.only f hf body
  obtain ⟨g, found, implements⟩ := h.defined d hd
  rw [name, h.registry.function?_eq_some_iff.mpr ⟨hf, rfl⟩, Option.some.injEq] at found
  exact ⟨d, hd, found ▸ implements⟩

/-- **The module is valid** whatever statements led to it. -/
theorem Settled.valid (h : Settled P m) : m.Valid where
  names := by
    rw [h.registry.names_eq]
    exact h.registry.distinct
  functions := by
    intro f hf
    by_cases body : f.blocks = []
    · refine ⟨(h.named f hf).nodup, fun b hb => ?_, fun l head => ?_⟩
      · rw [body] at hb
        cases hb
      · rw [Function.labels, body] at head
        cases head
    · obtain ⟨d, -, implements⟩ := h.implements hf body
      obtain ⟨all, flows⟩ := implements.flows (h.named f hf)
      exact flows.valid (h.named f hf)

/-- The name of a function of the module is not reserved. -/
theorem Settled.ordinary (h : Settled P m) {name : String} {f : Function}
    (found : m.function? name = some f) : isReserved name = false := by
  obtain ⟨mem, rfl⟩ := h.registry.function?_eq_some_iff.mp found
  exact (h.spelled f mem).ordinary

end Settled

end Reckoner.Lowering

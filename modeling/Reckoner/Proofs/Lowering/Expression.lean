import Reckoner.Proofs.Lowering.Writing

/-! Lowering an expression writes its code.

At a place in a function under construction, lowering an expression does one of two
things (`lower_writes`): it writes the code of the expression there and goes on
behind it, or it records one fault. Either way the module stays as it is, and so
does what else the generator holds. `Writes` says this of a step of lowering, and
the steps are put together by `Writes.bind`. -/
namespace Reckoner

/-- How many arguments a function of a module takes. -/
def IR.Module.arity? (m : IR.Module) (name : String) : Option Nat :=
  (m.function? name).map IR.Function.arity

namespace Lowering
open IR

theorem Generator.with_site {g : Generator} {s : Site} (site : g.site = some s) :
    { g with site := some s } = g := by
  rw [← site]

section Writes
variable {α β : Type} {m : Module} {s : Site}

/-- A step writes to the function at `s`: it succeeds with a value and a site that
satisfy `post`, or it records one fault. -/
def Writes (m : Module) (x : Lower α) (s : Site) (post : α → Site → Prop) : Prop :=
  ∀ g : Generator, g.module = m → g.site = some s →
    (∃ a t, x g = .ok a { g with site := some t } ∧ s.Grows t ∧ post a t) ∨
      ∃ t fault,
        x g = .error .refused { g with site := some t, faults := g.faults.push fault } ∧ s.Grows t

theorem Writes.pure {post : α → Site → Prop} {a : α} (h : post a s) :
    Writes m (pure a) s post := by
  intro g _ site
  refine .inl ⟨a, s, ?_, .refl s, h⟩
  rw [← site]
  rfl

theorem Writes.bind {x : Lower α} {f : α → Lower β} {mid : α → Site → Prop}
    {post : β → Site → Prop} (hx : Writes m x s mid)
    (hf : ∀ a t, s.Grows t → mid a t → Writes m (f a) t post) : Writes m (x >>= f) s post := by
  intro g module site
  rcases hx g module site with ⟨a, t, run, grows, h⟩ | ⟨t, fault, run, grows⟩
  · have next : (x >>= f) g = f a { g with site := some t } := by
      simp only [Bind.bind, EStateM.bind, run]
    rw [next]
    rcases hf a t grows h { g with site := some t } module rfl with
      ⟨b, u, run, more, h⟩ | ⟨u, fault, run, more⟩
    · exact .inl ⟨b, u, run, grows.trans more, h⟩
    · exact .inr ⟨u, fault, run, grows.trans more⟩
  · refine .inr ⟨t, fault, ?_, grows⟩
    simp only [Bind.bind, EStateM.bind, run]

theorem Writes.mono {x : Lower α} {mid post : α → Site → Prop} (hx : Writes m x s mid)
    (h : ∀ a t, mid a t → post a t) : Writes m x s post := by
  intro g module site
  rcases hx g module site with ⟨a, t, run, grows, ha⟩ | fault
  · exact .inl ⟨a, t, run, grows, h a t ha⟩
  · exact .inr fault

theorem Writes.refuse {post : α → Site → Prop} (cause : Cause) (l : Option Location) :
    Writes m (refuse cause l) s post := by
  intro g _ site
  refine .inr ⟨s, ⟨cause, l⟩, ?_, .refl s⟩
  rw [← site]
  rfl

theorem Writes.onSite {post : α → Site → Prop} {change : Site → α × Site}
    (grows : s.Grows (change s).2) (h : post (change s).1 (change s).2) :
    Writes m (onSite change) s post := by
  intro g _ site
  refine .inl ⟨(change s).1, (change s).2, ?_, grows, h⟩
  unfold Lowering.onSite
  rw [site]

theorem Writes.requireFunction (construct : Construct) (l : Option Location) :
    Writes m (requireFunction construct l) s fun _ t => t = s := by
  intro g _ site
  refine .inl ⟨(), s, ?_, .refl s, rfl⟩
  unfold Lowering.requireFunction
  rw [site, if_pos (by rfl), ← site]

end Writes

section Steps
variable {m : Module} {s : Site} {p : Point} {rest : List Block}

theorem resultName_mem (o : Arithmetic) : resultName o ∈ ownNames := by
  cases o <;> decide

/-- The result of an instruction that has been added. -/
theorem writes_emit (h : s.At p rest) {base : String} (own : base ∈ ownNames) (type : Ty)
    {instr : String → Instr}
    (name : ∀ n, (instr n).name = n) :
    Writes m (emit base type instr) s fun v t =>
      ∃ n, v = .result n type ∧ t.At (p.push (instr n)) rest := by
  obtain ⟨after, grows⟩ := h.appended own (name _)
  exact .onSite grows ⟨s.fresh base, rfl, after⟩

theorem writes_newBlock (h : s.At p rest) {base : String} (own : base ∈ ownNames) :
    Writes m (newBlock base) s fun label t => t.At p ({ label } :: rest) := by
  obtain ⟨after, grows⟩ := h.withBlock own
  exact .onSite grows after

theorem writes_leave (h : s.At p rest) (t : Terminator) :
    Writes m (leave t) s fun label u => label = p.label ∧ u.Holds ((Piece.mk p t).block :: rest) := by
  obtain ⟨after, grows⟩ := h.ended t
  exact .onSite grows ⟨h.block, after⟩

theorem writes_enter {label : String} {bs : List Block} (h : s.Holds bs)
    (here : bs.Perm ({ label } :: rest)) (start : List (String × Ty)) :
    Writes m (enter label) s fun _ t => t.At { label, start } rest :=
  .onSite (Site.grows_enter s label) ((h.perm here).enter start)

/-- A call is to a function of the module that takes as many arguments. -/
theorem writes_checkCall (callee : String) (count : Nat) (l : Option Location) :
    Writes m (checkCall callee count l) s fun _ t => t = s ∧ m.arity? callee = some count := by
  rintro g rfl site
  unfold checkCall
  cases found : g.module.function? callee with
  | none => exact .inr ⟨s, ⟨.unknownFunction callee, l⟩, by rw [← site]; rfl, .refl s⟩
  | some f =>
    by_cases fits : f.arity = count
    · refine .inl ⟨(), s, ?_, .refl s, rfl, by simp [IR.Module.arity?, found, fits]⟩
      rw [Generator.with_site site]
      simp [fits, Lowering.requireFunction, site]
    · refine .inr ⟨s, ⟨.argumentCount callee f.arity count, l⟩, ?_, .refl s⟩
      rw [← site]
      simp only [ne_eq, fits, not_false_eq_true, if_true]
      rfl

end Steps

/-- The value of an expression is a double. -/
theorem Code.type_eq {arity? : String → Option Nat} {names : List (String × Nat)} {p q : Point}
    {e : Expr} {v : Operand} {bs : List Piece} {ns : List String}
    (h : Code arity? names p e v bs q ns) : v.type = .double := by
  cases h <;> rfl

section Trees
variable (m : Module) (names : List (String × Nat))

/-- The code of an expression stands behind the place `p`, with its value `v`, and the
site is behind it. -/
def Codes (e : Expr) (p : Point) (rest : List Block) (v : Operand) (t : Site) : Prop :=
  ∃ bs q ns, Code m.arity? names p e v bs q ns ∧ t.At q (bs.map Piece.block ++ rest)

/-- Lowering an expression writes its code, wherever it starts. -/
def Lowers (e : Expr) : Prop :=
  ∀ {s : Site} {p : Point} {rest : List Block}, s.names = names → s.At p rest →
    Writes m (lower e) s (Codes m names e p rest)

def LowersAll (es : List Expr) : Prop :=
  ∀ {s : Site} {p : Point} {rest : List Block}, s.names = names → s.At p rest →
    Writes m (lowerAll es) s fun vs t =>
      ∃ bs q ns, CodeAll m.arity? names p es vs bs q ns ∧ t.At q (bs.map Piece.block ++ rest)

variable {m names}

theorem lowers_var (n : String) (l : Option Location) : Lowers m names (.var n l) := by
  intro s p rest hnames h g _ site
  simp only [lower, lowerVariable, site, Option.bind_some, hnames]
  cases found : names.lookup n with
  | none => exact .inr ⟨s, ⟨.unknownVariable n, l⟩, by rw [← site]; rfl, .refl s⟩
  | some i =>
    exact .inl ⟨.param i, s, by rw [← site], .refl s, [], p, [], .var found, h⟩

/-- Two operands one after the other, and an operation on them. -/
theorem lowers_binary {op : String} {lhs rhs : Expr} {l : Option Location}
    (hl : Lowers m names lhs) (hr : Lowers m names rhs) :
    Lowers m names (.binary op lhs rhs l) := by
  intro s p rest hnames h
  simp only [lower]
  cases found : Operation.ofString? op with
  | none => exact .refuse _ _
  | some operation =>
    refine (Writes.requireFunction _ _).bind fun _ s' _ same => ?_
    subst same
    refine (hl hnames h).bind fun x t grows ⟨bs, q, ns, codeL, ht⟩ => ?_
    refine (hr (grows.names.trans hnames) ht).bind fun y u _ ⟨cs, r, ms, codeR, hu⟩ => ?_
    have moved := (List.perm_append_comm_assoc (cs.map Piece.block) (bs.map Piece.block) rest)
    cases operation with
    | arithmetic o =>
      rw [operate, codeL.type_eq, codeR.type_eq, if_neg (fun ne => ne rfl)]
      refine (writes_emit hu (resultName_mem o) .double fun _ => rfl).mono fun v w ⟨n, hv, hw⟩ => ?_
      subst hv
      refine ⟨bs ++ cs, _, _, .arithmetic found codeL codeR, ?_⟩
      rw [List.map_append, List.append_assoc]
      exact hw.perm moved
    | less =>
      refine (writes_emit hu (by decide) .flag fun _ => rfl).bind fun flag w _ ⟨n, hflag, hw⟩ => ?_
      subst hflag
      refine (writes_emit hw (by decide) .double fun _ => rfl).mono fun v w ⟨k, hv, hw⟩ => ?_
      subst hv
      refine ⟨bs ++ cs, (r.push (.compare n .lessOrUnordered x y)).push (.widen k (.result n .flag)),
        ns ++ ms ++ [n, k], .less found codeL codeR, ?_⟩
      rw [List.map_append, List.append_assoc]
      exact hw.perm moved

theorem lowersAll_nil : LowersAll m names [] := by
  intro s p rest _ h
  simp only [lowerAll]
  exact .pure ⟨[], p, [], .nil, h⟩

theorem lowersAll_cons {e : Expr} {es : List Expr} (he : Lowers m names e)
    (hes : LowersAll m names es) : LowersAll m names (e :: es) := by
  intro s p rest hnames h
  simp only [lowerAll]
  refine (he hnames h).bind fun v t grows ⟨bs, q, ns, code, ht⟩ => ?_
  refine (hes (grows.names.trans hnames) ht).bind fun vs u _ ⟨cs, r, ms, codes, hu⟩ => ?_
  refine .pure ⟨bs ++ cs, r, ns ++ ms, .cons code codes, ?_⟩
  rw [List.map_append, List.append_assoc]
  exact hu.perm (List.perm_append_comm_assoc _ _ _)

theorem CodeAll.firstOther_eq {arity? : String → Option Nat} {names : List (String × Nat)}
    {p q : Point} {es : List Expr} {vs : List Operand} {bs : List Piece} {ns : List String}
    (h : CodeAll arity? names p es vs bs q ns) (index : Nat) : firstOther index vs = none := by
  induction vs generalizing p es bs ns index with
  | nil => rfl
  | cons v vs ih =>
    cases h with
    | cons first others =>
      rw [firstOther, if_pos first.type_eq]
      exact ih others _

theorem lowers_call {callee : String} {args : List Expr} {l : Option Location}
    (known : callee ≠ anonymousName) (hargs : LowersAll m names args) :
    Lowers m names (.call callee args l) := by
  intro s p rest hnames h
  simp only [lower]
  refine (writes_checkCall callee args.length l).bind fun _ t grows ⟨same, arity⟩ => ?_
  subst same
  refine (hargs hnames h).bind fun xs t _ ⟨bs, q, ns, codes, ht⟩ => ?_
  rw [invoke, codes.firstOther_eq]
  refine (writes_emit ht (by decide) .double fun _ => rfl).mono fun v u ⟨n, hv, hu⟩ => ?_
  subst hv
  exact ⟨bs, q.push (.call n callee xs), ns ++ [n], .call known arity codes, hu⟩

/-- A branch goes from its start to the end of the block that it ends in. -/
theorem writes_branch {e : Expr} {s : Site} {p : Point} {rest : List Block} (he : Lowers m names e)
    (hnames : s.names = names) (h : s.At p rest) (position : Position) (l : Option Location)
    (join : String) :
    Writes m (lowerBranch position l join (lower e)) s fun out t =>
      ∃ bs q ns, Code m.arity? names p e out.1 bs q ns ∧ out.2 = q.label ∧
        t.Holds ((Piece.mk q (.jump join)).block :: (bs.map Piece.block ++ rest)) := by
  refine (he hnames h).bind fun v t _ ⟨bs, q, ns, code, ht⟩ => ?_
  rw [code.type_eq, if_neg (fun ne => ne rfl)]
  refine (writes_leave ht _).bind fun label u _ ⟨same, hu⟩ => ?_
  exact .pure ⟨bs, q, ns, code, same, hu⟩

theorem third_front {a b c : Block} {l : List Block} : (a :: b :: c :: l).Perm (c :: a :: b :: l) :=
  @List.perm_middle _ c [a, b] l

/-- A block is moved in front of one that has been finished and of the blocks of a branch. -/
theorem rest_front {b c : Block} {l k : List Block} (bs : List Piece) (h : l.Perm (b :: k)) :
    (c :: (bs.map Piece.block ++ l)).Perm (b :: c :: (bs.map Piece.block ++ k)) :=
  ((h.append_left _).cons c).trans (@List.perm_middle _ b (c :: bs.map Piece.block) k)

theorem lowers_conditional {c t e : Expr} {l : Option Location} (hc : Lowers m names c)
    (ht : Lowers m names t) (he : Lowers m names e) :
    Lowers m names (.conditional c t e l) := by
  intro s p rest hnames h
  simp only [lower, lowerConditional]
  refine (Writes.requireFunction _ _).bind fun _ s' _ same => ?_
  subst same
  refine (hc hnames h).bind fun x s₁ g₁ ⟨bs, q, ns, codeC, h₁⟩ => ?_
  rw [codeC.type_eq, if_neg (fun ne => ne rfl)]
  refine (writes_emit h₁ (by decide) .flag fun _ => rfl).bind fun v s₂ g₂ ⟨flag, hv, h₂⟩ => ?_
  subst hv
  refine (writes_newBlock h₂ (by decide)).bind fun yes s₃ g₃ h₃ => ?_
  refine (writes_newBlock h₃ (by decide)).bind fun no s₄ g₄ h₄ => ?_
  refine (writes_newBlock h₄ (by decide)).bind fun join s₅ g₅ h₅ => ?_
  generalize hfork : q.push (.compare flag .orderedAndUnequal x (.const (0.0 : Float))) = fork at *
  have names₅ := (((g₁.trans g₂).trans g₃).trans g₄).trans g₅ |>.names.trans hnames
  -- Blocks are entered in the order in which the branches are written.
  refine (writes_leave h₅ _).bind fun _ s₆ g₆ ⟨_, h₆⟩ => ?_
  refine (writes_enter h₆ (third_front.cons _ |>.trans (.swap _ _ _))
    fork.known).bind fun _ s₇ g₇ h₇ => ?_
  have names₇ := (g₆.trans g₇).names.trans names₅
  refine (writes_branch ht names₇ h₇ _ _ _).bind fun taken s₈ g₈ ⟨cs, r, ms, codeT, hr, h₈⟩ => ?_
  refine (writes_enter h₈ (rest_front cs third_front) fork.known).bind
    fun _ s₉ g₉ h₉ => ?_
  have names₉ := (g₈.trans g₉).names.trans names₇
  refine (writes_branch he names₉ h₉ _ _ _).bind fun other s₁₀ g₁₀ ⟨ds, z, ks, codeE, hz, h₁₀⟩ => ?_
  refine (writes_enter h₁₀ (rest_front ds (rest_front cs (.swap _ _ _))) fork.known).bind
    fun _ s₁₁ g₁₁ h₁₁ => ?_
  refine (writes_emit h₁₁ (by decide) .double fun _ => rfl).mono fun v u ⟨n, hv, hu⟩ => ?_
  obtain ⟨y, label⟩ := taken
  obtain ⟨w, label'⟩ := other
  subst hv hr hz
  refine ⟨_, ⟨join, fork.known, [.phi n [(y, r.label), (w, z.label)]]⟩, _,
    .conditional codeC hfork.symm codeT codeE, hu.perm ?_⟩
  classical
  rw [List.perm_iff_count]
  intro b
  simp only [List.map_append, List.map_cons, List.map_nil, List.count_append, List.count_cons,
    List.count_nil]
  omega

variable (m names)

mutual

/-- **An expression is written as its code**, or one fault is recorded. -/
theorem lower_writes : (e : Expr) → e.IsTerm → Lowers m names e
  | .number _ _, _ => fun _ h => .pure ⟨[], _, [], .number, h⟩
  | .var n l, _ => lowers_var n l
  | .binary _ lhs rhs _, h => lowers_binary (lower_writes lhs h.1) (lower_writes rhs h.2)
  | .call _ args _, h => lowers_call h.1.ne_anonymous (lowerAll_writes args h.2)
  | .conditional c t e _, h =>
    lowers_conditional (lower_writes c h.1) (lower_writes t h.2.1) (lower_writes e h.2.2)

theorem lowerAll_writes : (es : List Expr) → Expr.AreTerms es → LowersAll m names es
  | [], _ => lowersAll_nil
  | e :: rest, h => lowersAll_cons (lower_writes e h.1) (lowerAll_writes rest h.2)

end

end Trees

end Lowering

end Reckoner

import Reckoner.IR.Text
import Reckoner.Proofs.IR.Registry

/-! What the text of a module shows.

A name between quotes is read back whatever it is made of, as every quote in it is
escaped (`quotedName_cancel`). So the text of a declaration shows the names of its
parameters (`text_declaration_iff`), and the text of a module shows the text of each
of its functions (`text_set_iff`). -/
namespace Reckoner.IR

/-! ### Names -/

/-- What stands for a character of a name between quotes. -/
def nameEscape (c : Char) : List Char :=
  if c = '\\' then ['\\', '5', 'c'] else if c = '"' then ['\\', '2', '2'] else [c]

theorem toList_quotedName (name : String) :
    (quotedName name).toList = '"' :: (name.toList.flatMap nameEscape ++ ['"']) := by
  rw [quotedName, String.toList_ofList]
  rfl

theorem nameEscape_cancel {c d : Char} {a b : List Char}
    (h : nameEscape c ++ a = nameEscape d ++ b) : c = d ∧ a = b := by
  -- What starts with a backslash is an escape, and its digits tell of what.
  have escape (e : Char) : (e = '\\' ∧ nameEscape e = ['\\', '5', 'c']) ∨
      (e = '"' ∧ nameEscape e = ['\\', '2', '2']) ∨ (e ≠ '\\' ∧ nameEscape e = [e]) := by
    unfold nameEscape
    split
    · exact .inl ⟨‹_›, rfl⟩
    · split
      · exact .inr (.inl ⟨‹_›, rfl⟩)
      · exact .inr (.inr ⟨‹_›, rfl⟩)
  rcases escape c with ⟨ec, hc⟩ | ⟨ec, hc⟩ | ⟨ec, hc⟩ <;>
    rcases escape d with ⟨ed, hd⟩ | ⟨ed, hd⟩ | ⟨ed, hd⟩ <;> rw [hc, hd] at h <;>
    simp only [List.cons_append, List.nil_append, List.cons.injEq] at h
  · exact ⟨ec.trans ed.symm, h.2.2.2⟩
  · exact absurd h.2.1 (by decide)
  · exact absurd h.1.symm ed
  · exact absurd h.2.1 (by decide)
  · exact ⟨ec.trans ed.symm, h.2.2.2⟩
  · exact absurd h.1.symm ed
  · exact absurd h.1 ec
  · exact absurd h.1 ec
  · exact h

theorem nameEscape_ne_quote (c : Char) (a b : List Char) : nameEscape c ++ a ≠ '"' :: b := by
  unfold nameEscape
  split
  · simp
  · split
    · simp
    · simpa using fun h => absurd h ‹_›

theorem escaped_cancel {x y a b : List Char}
    (h : x.flatMap nameEscape ++ '"' :: a = y.flatMap nameEscape ++ '"' :: b) : x = y ∧ a = b := by
  induction x generalizing y with
  | nil =>
    cases y with
    | nil => exact ⟨rfl, (List.cons.inj h).2⟩
    | cons d y =>
      rw [List.flatMap_cons, List.append_assoc] at h
      exact absurd h.symm (nameEscape_ne_quote d _ _)
  | cons c x ih =>
    cases y with
    | nil =>
      rw [List.flatMap_cons, List.append_assoc] at h
      exact absurd h (nameEscape_ne_quote c _ _)
    | cons d y =>
      rw [List.flatMap_cons, List.flatMap_cons, List.append_assoc, List.append_assoc] at h
      obtain ⟨rfl, rest⟩ := nameEscape_cancel h
      obtain ⟨rfl, same⟩ := ih rest
      exact ⟨rfl, same⟩

/-- A name between quotes tells the name, and where it ends. -/
theorem quotedName_cancel {x y a b : String} (h : quotedName x ++ a = quotedName y ++ b) :
    x = y ∧ a = b := by
  have := congrArg String.toList h
  rw [String.toList_append, String.toList_append, toList_quotedName, toList_quotedName,
    List.cons_append, List.cons_append, List.append_assoc, List.append_assoc] at this
  obtain ⟨names, rest⟩ := escaped_cancel (List.cons.inj this).2
  exact ⟨String.toList_inj.mp names, String.toList_inj.mp rest⟩

/-! ### Declarations -/

/-- A parameter in the heading of a function. -/
def paramText (name : String) : String :=
  "double " ++ localName name

theorem paramText_cancel {x y a b : String} (h : paramText x ++ a = paramText y ++ b) :
    x = y ∧ a = b := by
  simp only [paramText, localName, String.append_assoc, String.append_right_inj] at h
  exact quotedName_cancel h

theorem params_inj {xs ys : List String} (length : xs.length = ys.length)
    (h : ", ".intercalate (xs.map paramText) = ", ".intercalate (ys.map paramText)) : xs = ys := by
  induction xs generalizing ys with
  | nil => exact (List.eq_nil_of_length_eq_zero length.symm).symm
  | cons x xs ih =>
    cases ys with
    | nil => cases length
    | cons y ys =>
      cases xs with
      | nil =>
        obtain rfl := List.eq_nil_of_length_eq_zero (Nat.succ.inj length).symm
        have cancel := @paramText_cancel x y "" "" (by simpa using h)
        rw [cancel.1]
      | cons x' xs =>
        cases ys with
        | nil => cases length
        | cons y' ys =>
          simp only [List.map_cons, String.intercalate_cons_cons, String.append_assoc] at h
          obtain ⟨rfl, rest⟩ := paramText_cancel h
          rw [String.append_right_inj] at rest
          rw [ih (Nat.succ.inj length) rest]

/-- Declarations of one name are shown alike only if their parameters are. -/
theorem text_declaration_iff {f g : Function} (name : g.name = f.name)
    (length : g.shownParams.length = f.shownParams.length) (hf : f.blocks = []) (hg : g.blocks = []) :
    g.text = f.text ↔ g.shownParams = f.shownParams := by
  have text {k : Function} (hk : k.blocks = []) : k.text = "declare " ++ ("double " ++
      (globalName k.name ++ ("(" ++ (", ".intercalate (k.shownParams.map paramText) ++
        (")" ++ "\n"))))) := by
    have declared : k.isDeclaration = true := by rw [Function.isDeclaration, hk, List.isEmpty_nil]
    rw [Function.text, declared, if_pos rfl, Function.signatureText]
    simp only [String.append_assoc]
    rfl
  constructor
  · intro h
    rw [text hf, text hg, name] at h
    simp only [String.append_right_inj, String.append_left_inj] at h
    exact params_inj length h
  · intro h
    rw [text hf, text hg, name, h]

/-! ### Modules -/

namespace Module

/-- A module is shown alike with another function of a name only if that function is. -/
theorem text_set_iff {m : Module} {f g : Function} (h : m.Registry)
    (found : m.function? g.name = some f) : (m.set g).text = m.text ↔ g.text = f.text := by
  obtain ⟨mem, name⟩ := h.function?_eq_some_iff.mp found
  obtain ⟨front, back, split⟩ := List.append_of_mem mem
  have distinct := h.distinct
  rw [split, List.map_append, List.map_cons, List.nodup_append, List.nodup_cons] at distinct
  obtain ⟨-, ⟨behind, -⟩, before⟩ := distinct
  have same (l : List Function) (free : ∀ k ∈ l, k.name ≠ g.name) :
      (l.map fun k => if k.name = g.name then g else k) = l :=
    (List.map_congr_left fun k hk => if_neg (free k hk)).trans (List.map_id' _)
  have functions : (m.set g).functions = front ++ g :: back := by
    rw [set, found, Option.isSome_some, if_pos rfl, (h.put g).2, split, List.map_append, List.map_cons,
      if_pos name, same front, same back]
    · intro k hk eq
      exact behind (List.mem_map.mpr ⟨k, hk, eq.trans name.symm⟩)
    · intro k hk eq
      exact before _ (List.mem_map_of_mem hk) _ List.mem_cons_self (eq.trans name.symm)
  have globals := (h.set g).1.globals
  rw [functions, List.map_append, List.map_cons] at globals
  have globals' := h.globals
  rw [split, List.map_append, List.map_cons] at globals'
  have heading : (m.set g).heading = m.heading := by
    unfold Module.heading
    rw [name_set]
  unfold Module.text
  rw [heading, globals, globals']
  simp only [List.map_append, List.map_cons, String.join_append, String.join_cons, Global.text,
    String.append_assoc, String.append_right_inj, String.append_left_inj]

end Module

end Reckoner.IR

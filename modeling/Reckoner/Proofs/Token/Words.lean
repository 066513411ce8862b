import Mathlib.Logic.Relation
import Reckoner.Proofs.Expr.Grammar
import Reckoner.Proofs.Token.Names
import Reckoner.Proofs.Token.Reads
import Reckoner.Proofs.Token.Spacing

/-! Tokens are words.

Whatever a source holds, and wherever it fails, a scan gives the end of the input or the token
of a word (`Scanner.isScanned_next`). The characters of the word can be read again, as a scanner
has none pending that cannot. So all tokens of a feed are such, however many requests have been
made and whether or not they met a fault (`Feed.every_behind`). -/
namespace Reckoner

/-- The end of the input, or the token of a word that a source can have. -/
inductive Token.IsScanned : Token → Prop where
  | finish {place} : IsScanned (.finish place)
  | word {w place} : IsWord w → IsAscii w → IsScanned (ofWord w place)

namespace Scanner

/-! ### What is pending -/

/-- From one scanner to another by reads, each of which may have met a fault. -/
def Onward : Scanner → Scanner → Prop :=
  Relation.ReflTransGen fun s t => after (read s) = t

/-- A step that does nothing to a scanner but read. -/
def Reads {α : Type} (x : Scan α) : Prop :=
  ∀ s, Onward s (after (x s))

theorem onward_readTimes (n : Nat) (s : Scanner) : Onward s (readTimes n s) := by
  induction n generalizing s with
  | zero => exact .refl
  | succ n ih => exact .head rfl (ih _)

theorem Spends.onward {α : Type} {s : Scanner} {r : EStateM.Result Token.Fault Scanner α}
    (h : Spends s r) : Onward s (after r) := by
  obtain ⟨n, -, reads⟩ := h.exists_readTimes
  exact reads ▸ onward_readTimes n s

theorem reads_skip (comment : Bool) : Reads (skip comment) :=
  fun s => (spends_skip comment s).onward

theorem reads_next : Reads next :=
  fun s => (spends_next s).onward

/-- The pending character is one that a source can have. -/
def IsClean (s : Scanner) : Prop :=
  ∀ c ∈ s.pending, c.toNat < 128

variable {s t u : Scanner}

theorem IsClean.read (h : s.IsClean) : (after (read s)).IsClean := by
  unfold Scanner.read
  split
  · split
    · exact fun c hc => by cases hc
    · exact h
  · exact h
  · dsimp only
    split
    · rename_i c _ _ ascii
      rintro _ ⟨⟩
      exact ascii
    · exact h

theorem IsClean.onward (h : s.IsClean) (onward : s.Onward t) : t.IsClean := by
  induction onward with
  | refl => exact h
  | tail _ here ih => exact here ▸ ih.read

theorem IsClean.next (h : s.IsClean) : (after (next s)).IsClean :=
  h.onward (reads_next s)

/-! ### What a scan gives -/

/-- Behind blanks and comments there is something else. -/
theorem skip_spec {comment : Bool} (h : skip comment s = .ok () t) :
    ∀ c ∈ t.pending, skipped false c = none := by
  fun_induction skip comment s with
  | case1 =>
    rename_i empty
    cases h
    rw [empty]
    exact fun c hc => by cases hc
  | case2 =>
    rename_i pending stays
    cases h
    rw [pending]
    rintro _ ⟨⟩
    exact skipped_false_of_none stays
  | case3 _ _ _ _ _ _ _ _ _ _ ih => exact ih h
  | case4 => cases h

theorem collect_append {p : Char → Bool} {before cs : List Char}
    (h : collect p before s = .ok cs t) :
    ∃ more, cs = before.reverse ++ more ∧ ∀ d ∈ more, p d = true := by
  fun_induction collect p before s with
  | case1 =>
    cases h
    exact ⟨[], by simp, List.forall_mem_nil _⟩
  | case2 before s c _ fits _ _ _ _ ih =>
    obtain ⟨more, rfl, fit⟩ := ih h
    exact ⟨c :: more, by simp, List.forall_mem_cons.mpr ⟨fits, fit⟩⟩
  | case3 => cases h
  | case4 =>
    cases h
    exact ⟨[], by simp, List.forall_mem_nil _⟩

theorem run_all {p : Char → Bool} {cs : List Char} (h : run p s = .ok cs t) :
    ∀ d ∈ cs, p d = true := by
  obtain ⟨more, rfl, fit⟩ := collect_append h
  exact fit

/-- A run starts with the pending character, if that one fits. -/
theorem exists_run_cons {p : Char → Bool} {cs : List Char} {c : Char}
    (pending : s.pending = some c) (fits : p c = true) (h : run p s = .ok cs t) :
    ∃ more, cs = c :: more := by
  rw [run, collect_of_some pending fits] at h
  simp only [bind, EStateM.bind] at h
  split at h
  · obtain ⟨more, rfl, -⟩ := collect_append h
    exact ⟨more, rfl⟩
  · cases h

section
variable {c : Char} {k : Token} {place : Location}

theorem name_spec (pending : s.pending = some c) (letter : c.isAlpha = true)
    (h : name place s = .ok k t) :
    ∃ more, k = .ofWord (c :: more) place ∧ ∀ d ∈ c :: more, d.isAlphanum = true := by
  simp only [name, bind, EStateM.bind] at h
  split at h
  · rename_i cs u collected
    obtain ⟨more, rfl⟩ := exists_run_cons pending (isAlphanum_of_isAlpha letter) collected
    refine ⟨more, ?_, run_all collected⟩
    revert h
    rw [Token.ofWord, if_pos letter]
    cases Token.Keyword.ofSpelling? (String.ofList (c :: more)) <;> intro h <;> cases h <;> rfl
  · cases h

theorem fraction_spec {whole : List Char} (digits : ∀ d ∈ whole, d.isDigit = true)
    (h : fraction whole place s = .ok k t) :
    ∃ more, k = .ofFigures (whole ++ '.' :: more) place ∧ ∀ d ∈ more, d.isDigit = true := by
  simp only [fraction, bind, EStateM.bind] at h
  split at h
  · split at h
    · rename_i more _ collected
      refine ⟨more, ?_, run_all collected⟩
      rw [ofFigures_point digits]
      split at h <;> cases h
      · rw [if_pos ‹_›]
      · rw [if_neg ‹_›]
    · cases h
  · cases h

theorem numeral_spec (pending : s.pending = some c) (start : (c.isDigit || c = '.') = true)
    (h : numeral place s = .ok k t) :
    ∃ more, k = .ofFigures (c :: more) place ∧ figures (c :: more) = c :: more ∧
      ∀ d ∈ c :: more, d.isDigit = true ∨ d = '.' := by
  simp only [numeral, bind, EStateM.bind] at h
  split at h
  · rename_i whole u collected
    have digits := run_all collected
    have point : ∀ more, (∀ d ∈ more, d.isDigit = true) →
        ∀ d ∈ whole ++ '.' :: more, d.isDigit = true ∨ d = '.' := by
      intro more digits' d mem
      rcases List.mem_append.mp mem with mem | mem
      · exact .inl (digits d mem)
      · exact (List.mem_cons.mp mem).symm.imp_left (digits' d)
    unfold afterDigits at h
    cases digit : c.isDigit with
    | true =>
      obtain ⟨before, rfl⟩ := exists_run_cons pending digit collected
      split at h
      · obtain ⟨more, rfl, digits'⟩ := fraction_spec digits h
        exact ⟨_, rfl, figures_of_parts digits digits', point more digits'⟩
      · cases h
        exact ⟨before, (ofFigures_whole digits (List.cons_ne_nil _ _) place).symm,
          figures_of_digits digits, fun d mem => .inl (digits d mem)⟩
    | false =>
      rw [digit, Bool.false_or, decide_eq_true_eq] at start
      subst start
      rw [run_of_not pending digit] at collected
      cases collected
      rw [if_pos pending] at h
      obtain ⟨more, rfl, digits'⟩ := fraction_spec digits h
      exact ⟨more, rfl, figures_of_parts digits digits', point more digits'⟩
  · cases h

/-- **Every scan gives the token of a word**, or the end of the input. -/
theorem isScanned_next (clean : s.IsClean) (h : next s = .ok k t) : k.IsScanned := by
  simp only [next, bind, EStateM.bind] at h
  split at h
  · rename_i u skipped
    have clean : u.IsClean := by
      have behind := clean.onward (reads_skip false s)
      rwa [skipped] at behind
    cases pending : u.pending with
    | none =>
      rw [token_of_none pending] at h
      cases h
      exact .finish
    | some c =>
      have stays := skip_spec skipped c pending
      have single {more : List Char} (whole : word (c :: more) = c :: more) :
          IsWord (c :: more) := ⟨List.cons_ne_nil _ _, by rw [layout, stays], whole⟩
      rw [token_of_some pending] at h
      split at h
      · rename_i letter
        obtain ⟨more, rfl, fits⟩ := name_spec pending letter h
        refine .word (single ?_) fun d mem => toNat_lt_of_isAlphanum (fits d mem)
        rw [word, if_pos letter, List.takeWhile_eq_self_iff.mpr fits]
      · rename_i letter
        split at h
        · rename_i start
          obtain ⟨more, rfl, whole, fits⟩ := numeral_spec pending start h
          have same : Token.ofFigures (c :: more) u.here = .ofWord (c :: more) u.here := by
            rw [Token.ofWord, if_neg letter, if_pos start]
          refine same ▸ .word (single ?_) fun d mem => ?_
          · rw [word, if_neg letter, if_pos start, whole]
          · rcases fits d mem with digit | rfl
            · exact toNat_lt_of_isAlphanum (isAlphanum_of_isDigit digit)
            · decide
        · rename_i start
          have same : k = .ofWord [c] u.here := by
            simp only [symbol, bind, EStateM.bind] at h
            split at h <;> cases h
            rw [Token.ofWord, if_neg letter, if_neg start]
            rfl
          refine same ▸ .word (single ?_) fun d mem => ?_
          · rw [word, if_neg letter, if_neg start]
          · rw [List.mem_singleton.mp mem]
            exact clean c pending
  · cases h

end

end Scanner

namespace Feed

/-- The feed behind so many requests, whether or not they met a fault. -/
def behind (f : Feed) : Nat → Feed
  | 0 => f
  | n + 1 => f.next.2.behind n

theorem next_behind (f : Feed) (n : Nat) : (f.behind n).next.2 = f.behind (n + 1) := by
  induction n generalizing f with
  | zero => rfl
  | succ n ih => exact ih f.next.2

section
variable {P : Token → Prop} {f g : Feed} {ts : List Token}

theorem Every.behind (finish : ∀ place, P (.finish place)) (h : f.Every P) (n : Nat) :
    (f.behind n).Every P := by
  induction n generalizing f with
  | zero => exact h
  | succ n ih => exact ih (h.next finish)

theorem Every.passes (finish : ∀ place, P (.finish place)) (h : f.Every P) (passes : f.Passes ts g) :
    ∀ t ∈ ts, P t := by
  induction passes with
  | nil => exact List.forall_mem_nil _
  | cons current next _ ih =>
    have later := h.next finish
    rw [next] at later
    exact List.forall_mem_cons.mpr ⟨h.current _ current, ih later⟩

/-- **All tokens of a source are scanned**, whatever has been asked for so far. -/
theorem every_behind (file : String) (source : Source) (n : Nat) :
    ((ofSource file source).behind n).Every Token.IsScanned := by
  refine Every.behind (fun _ => .finish) ⟨(fun t ht => by cases ht), ?_⟩ n
  refine every_unroll (I := Scanner.IsClean) (fun s => Scanner.IsClean.next)
    (fun s k t => Scanner.isScanned_next) (fun c hc => ?_) fun t ht => by cases ht
  cases hc
  decide

end

end Feed

end Reckoner

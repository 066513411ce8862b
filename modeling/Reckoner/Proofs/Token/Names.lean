import Reckoner.Proofs.Expr.Shape
import Reckoner.Token.Feed

/-! Names in a source.

The name of an identifier is the run of letters and digits that a scan collects, so it
is one that a text can spell (`Scanner.isSpelled_next`), and this goes for all tokens
that a feed still holds (`Feed.spelled_ofSource`). -/
namespace Reckoner

/-- A token that is no identifier, or one with a name that a text can spell. -/
def Token.IsSpelled (t : Token) : Prop :=
  ∀ n, t.name? = some n → IsIdentifier n

namespace Scanner

/-- A run consists of characters that fit, and is not empty if the first one fits. -/
theorem collect_spec {p : Char → Bool} {before cs : List Char} {s t : Scanner}
    (h : collect p before s = .ok cs t) (fits : ∀ c ∈ before, p c = true) :
    (∀ c ∈ cs, p c = true) ∧ before.length ≤ cs.length := by
  fun_induction collect p before s with
  | case1 => cases h; simpa using fits
  | case2 before s c _ hc _ t _ _ ih =>
    have := ih h (List.forall_mem_cons.mpr ⟨hc, fits⟩)
    exact ⟨this.1, Nat.le_of_succ_le this.2⟩
  | case3 => cases h
  | case4 => cases h; simpa using fits

theorem run_spec {p : Char → Bool} {cs : List Char} {s t : Scanner} {c : Char}
    (pending : s.pending = some c) (fits : p c = true) (h : run p s = .ok cs t) :
    (∀ d ∈ cs, p d = true) ∧ cs ≠ [] := by
  unfold run collect at h
  split at h
  · simp_all
  · rename_i d hd
    obtain rfl : c = d := Option.some.inj (pending.symm.trans hd)
    rw [if_pos fits] at h
    split at h
    · have := collect_spec h (List.forall_mem_singleton.mpr fits)
      refine ⟨this.1, fun none => ?_⟩
      rw [none] at this
      exact Nat.not_succ_le_zero 0 this.2
    · cases h

theorem isSpelled_name {place : Location} {s t : Scanner} {c : Char} {k : Token}
    (pending : s.pending = some c) (letter : c.isAlpha = true) (h : name place s = .ok k t) :
    k.IsSpelled := by
  simp only [name, bind, EStateM.bind] at h
  split at h
  · rename_i cs u hu
    obtain ⟨alphanum, nonempty⟩ := run_spec pending (by simp [Char.isAlphanum, letter]) hu
    have spelled : IsIdentifier (String.ofList cs) := by
      refine ⟨fun none => nonempty ?_, by simpa using alphanum⟩
      simpa using congrArg String.toList none
    revert h
    cases Token.Keyword.ofSpelling? (String.ofList cs) <;> intro h <;> cases h
    · intro n hn
      cases hn
      exact spelled
    · intro n hn
      cases hn
  · cases h

theorem isSpelled_of_kind {k : Token} (h : k.kind ≠ .identifier) : k.IsSpelled := by
  intro n hn
  unfold Token.name? at hn
  split at hn
  · exact absurd ‹_› h
  · cases hn

theorem isSpelled_fraction {whole : List Char} {place : Location} {s t : Scanner} {k : Token}
    (h : fraction whole place s = .ok k t) : k.IsSpelled := by
  simp only [fraction, bind, EStateM.bind] at h
  split at h
  · split at h
    · split at h <;> cases h <;> exact isSpelled_of_kind (by simp)
    · cases h
  · cases h

theorem isSpelled_numeral {place : Location} {s t : Scanner} {k : Token}
    (h : numeral place s = .ok k t) : k.IsSpelled := by
  simp only [numeral, bind, EStateM.bind] at h
  split at h
  · unfold afterDigits at h
    split at h
    · exact isSpelled_fraction h
    · cases h
      exact isSpelled_of_kind (by simp)
  · cases h

theorem isSpelled_symbol {place : Location} {s t : Scanner} {c : Char} {k : Token}
    (h : symbol c place s = .ok k t) : k.IsSpelled := by
  simp only [symbol, bind, EStateM.bind] at h
  split at h
  · cases h
    exact isSpelled_of_kind (by simp)
  · cases h

/-- **Every scan gives a token with a name that a text can spell**, if with any. -/
theorem isSpelled_next {s t : Scanner} {k : Token} (h : next s = .ok k t) : k.IsSpelled := by
  simp only [next, bind, EStateM.bind] at h
  split at h
  · rename_i u hu
    unfold token at h
    cases hc : u.pending with
    | none =>
      rw [hc] at h
      cases h
      exact isSpelled_of_kind (by simp [Token.finish])
    | some c =>
      rw [hc] at h
      dsimp only at h
      by_cases letter : c.isAlpha = true
      · rw [if_pos letter] at h
        exact isSpelled_name hc letter h
      · rw [if_neg letter] at h
        by_cases start : (c.isDigit || decide (c = '.')) = true
        · rw [if_pos start] at h
          exact isSpelled_numeral h
        · rw [if_neg start] at h
          exact isSpelled_symbol h
  · cases h

end Scanner

namespace Feed

/-- What holds of the current token of a feed and of all that are ahead. -/
structure Every (P : Token → Prop) (f : Feed) : Prop where
  current : ∀ t, f.current = some t → P t
  ahead : ∀ t, .ok t ∈ f.ahead → P t

section
variable {P : Token → Prop} {I : Scanner → Prop} {f : Feed}

theorem Every.next (finish : ∀ place, P (.finish place)) (h : f.Every P) : f.next.2.Every P := by
  unfold Feed.next
  split
  · rename_i t rest ahead
    refine ⟨fun k hk => ?_, fun k hk => h.ahead k (by rw [ahead]; exact List.mem_cons_of_mem _ hk)⟩
    cases hk
    exact h.ahead t (by rw [ahead]; exact List.mem_cons_self)
  · rename_i ahead
    exact ⟨h.current, fun k hk => h.ahead k (by rw [ahead]; exact List.mem_cons_of_mem _ hk)⟩
  · split
    · refine ⟨fun k hk => ?_, fun k hk => by cases hk⟩
      cases hk
      exact finish _
    · exact h

/-- What every scan of a scanner gives, also behind a fault, holds of all that are ahead. -/
theorem every_unroll (keeps : ∀ s, I s → I (Scanner.after s.next))
    (gives : ∀ s k t, I s → s.next = .ok k t → P k) {before : List Scanned} {s : Scanner} (here : I s)
    (h : ∀ t, .ok t ∈ before → P t) : ∀ t, .ok t ∈ (unroll before s).1 → P t := by
  fun_induction unroll before s with
  | case1 => intro t ht; exact h t (List.mem_reverse.mp ht)
  | case2 before s t u next more _ ih =>
    have behind := keeps s here
    rw [next] at behind
    refine ih behind fun k hk => ?_
    rcases List.mem_cons.mp hk with same | hk
    · cases same
      exact gives s t u here next
    · exact h k hk
  | case3 before s fault u next less ih =>
    have behind := keeps s here
    rw [next] at behind
    refine ih behind fun k hk => ?_
    rcases List.mem_cons.mp hk with same | hk
    · cases same
    · exact h k hk
  | case4 => intro t ht; exact h t (List.mem_reverse.mp ht)

end

/-- All tokens of a feed have names that a text can spell, if they have any. -/
structure Spelled (f : Feed) : Prop where
  current : ∀ t, f.current = some t → t.IsSpelled
  ahead : ∀ t, .ok t ∈ f.ahead → t.IsSpelled

theorem Spelled.next {f : Feed} (h : f.Spelled) : f.next.2.Spelled := by
  have finish (place : Option Location) : (Token.finish place).IsSpelled :=
    Scanner.isSpelled_of_kind (by simp [Token.finish])
  obtain ⟨current, ahead⟩ := (Every.mk h.current h.ahead).next finish
  exact ⟨current, ahead⟩

theorem spelled_ofSource (file : String) (source : Source) : (ofSource file source).Spelled := by
  refine ⟨nofun, every_unroll (I := fun _ => True) (fun _ _ => trivial) ?_ trivial nofun⟩
  exact fun _ _ _ _ scanned => Scanner.isSpelled_next scanned

end Feed

end Reckoner

import Reckoner.Proofs.Token.Lookahead

/-! How often a scan reads.

A scan looks at the pending character and reads the one behind it, again and again. Each read
that gives a character uses up some of the source, and one that does not stops the scan. So a
scan does nothing to a scanner but read, and no more often than there is something left
(`Scanner.exists_reads_next`), wherever the source is broken. -/
namespace Reckoner.Scanner

/-- The scanner behind so many reads, each of which may have met a fault. -/
def readTimes : Nat → Scanner → Scanner
  | 0, s => s
  | n + 1, s => readTimes n (after (read s))

/-- What a step comes to that only reads: every read that gives a character is paid for by what
is left in front of it, and so is the last one, if that meets a fault. -/
inductive Spends {α : Type} (s : Scanner) : EStateM.Result Token.Fault Scanner α → Prop where
  | ok {n a t} : readTimes n s = t → n + t.remaining ≤ s.remaining → Spends s (.ok a t)
  | error {n fault t} : readTimes n s = t → n ≤ s.remaining → Spends s (.error fault t)

section
variable {α β : Type} {s t : Scanner} {c : Char} {x : Scan α} {f : α → Scan β}

theorem readTimes_add (m n : Nat) (s : Scanner) :
    readTimes (m + n) s = readTimes n (readTimes m s) := by
  induction m generalizing s with
  | zero => rw [Nat.zero_add, readTimes]
  | succ m ih => rw [Nat.succ_add, readTimes, readTimes, ih]

theorem Spends.stay (a : α) (s : Scanner) : Spends s (.ok a s) :=
  .ok (n := 0) rfl (Nat.le_of_eq (Nat.zero_add _))

theorem Spends.pure (a : α) (s : Scanner) : Spends s ((Pure.pure a : Scan α) s) :=
  .stay a s

theorem Spends.bind (first : Spends s (x s)) (rest : ∀ a t, x s = .ok a t → Spends t (f a t)) :
    Spends s ((x >>= f) s) := by
  simp only [Bind.bind, EStateM.bind]
  cases run : x s with
  | error fault t =>
    rw [run] at first
    cases first with
    | error reads paid => exact .error reads paid
  | ok a t =>
    rw [run] at first
    cases first with
    | @ok m _ _ reads paid =>
      have rest := rest a t run
      subst reads
      dsimp only
      cases behind : f a (readTimes m s) with
      | ok b u =>
        rw [behind] at rest
        cases rest with
        | @ok n _ _ reads paid' =>
          exact .ok ((readTimes_add m n s).trans reads) (by omega)
      | error fault u =>
        rw [behind] at rest
        cases rest with
        | @error n _ _ reads paid' =>
          exact .error ((readTimes_add m n s).trans reads) (by omega)

/-- A read at a pending character. -/
theorem spends_read (pending : s.pending = some c) : Spends s (read s) := by
  cases run : read s with
  | ok a t =>
    have less := remaining_read_lt pending run
    exact .ok (n := 1) (congrArg after run) (by omega)
  | error fault t =>
    refine .error (n := 1) (congrArg after run) ?_
    simp [remaining, pending]

theorem spends_skip (comment : Bool) (s : Scanner) : Spends s (skip comment s) := by
  induction bound : s.remaining using Nat.strongRecOn generalizing s comment with
  | ind n ih =>
    subst bound
    by_cases stays : ∀ c, s.pending = some c → skipped comment c = none
    · rw [skip_of_none stays]
      exact .stay () s
    · push Not at stays
      obtain ⟨c, pending, goes⟩ := stays
      obtain ⟨inside, goes⟩ := Option.ne_none_iff_exists'.mp goes
      rw [skip_of_some pending goes]
      exact (spends_read pending).bind fun _ t moved =>
        ih _ (remaining_read_lt pending moved) inside t rfl

theorem spends_collect (p : Char → Bool) (cs : List Char) (s : Scanner) :
    Spends s (collect p cs s) := by
  induction bound : s.remaining using Nat.strongRecOn generalizing s cs with
  | ind n ih =>
    subst bound
    by_cases stays : ∀ c, s.pending = some c → p c = false
    · rw [collect_of_none cs stays]
      exact .stay _ s
    · push Not at stays
      obtain ⟨c, pending, fits⟩ := stays
      rw [collect_of_some pending (by simpa using fits)]
      exact (spends_read pending).bind fun _ t moved =>
        ih _ (remaining_read_lt pending moved) _ t rfl

theorem spends_run (p : Char → Bool) (s : Scanner) : Spends s (run p s) :=
  spends_collect p [] s

theorem spends_name (place : Location) (s : Scanner) : Spends s (name place s) := by
  refine (spends_run _ s).bind fun cs t _ => ?_
  cases Token.Keyword.ofSpelling? (String.ofList cs) <;> exact .pure _ t

theorem spends_fraction (pending : s.pending = some '.') (whole : List Char) (place : Location) :
    Spends s (fraction whole place s) := by
  refine (spends_read pending).bind fun _ t _ => (spends_run _ t).bind fun digits u _ => ?_
  split <;> exact .pure _ u

theorem spends_afterDigits (whole : List Char) (place : Location) (s : Scanner) :
    Spends s (afterDigits whole place s) := by
  unfold afterDigits
  split
  · rename_i point
    exact spends_fraction point whole place
  · exact .stay _ s

theorem spends_numeral (place : Location) (s : Scanner) : Spends s (numeral place s) :=
  (spends_run _ s).bind fun whole t _ => spends_afterDigits whole place t

theorem spends_symbol (pending : s.pending = some c) (d : Char) (place : Location) :
    Spends s (symbol d place s) :=
  (spends_read pending).bind fun _ t _ => .pure _ t

theorem spends_token (s : Scanner) : Spends s (token s) := by
  cases pending : s.pending with
  | none =>
    rw [token_of_none pending]
    exact .stay _ s
  | some c =>
    rw [token_of_some pending]
    split
    · exact spends_name _ s
    · split
      · exact spends_numeral _ s
      · exact spends_symbol pending c _

theorem spends_next (s : Scanner) : Spends s (next s) :=
  (spends_skip false s).bind fun _ t _ => spends_token t

theorem Spends.exists_readTimes {r : EStateM.Result Token.Fault Scanner α} (h : Spends s r) :
    ∃ n ≤ s.remaining, after r = readTimes n s := by
  cases h with
  | ok reads paid => exact ⟨_, Nat.le_trans (Nat.le_add_right _ _) paid, reads.symm⟩
  | error reads paid => exact ⟨_, paid, reads.symm⟩

/-- **A scan comes to an end**: it reads at most once for all that is left of its source. -/
theorem exists_reads_next (s : Scanner) : ∃ n ≤ s.remaining, after (next s) = readTimes n s :=
  (spends_next s).exists_readTimes

end

end Reckoner.Scanner

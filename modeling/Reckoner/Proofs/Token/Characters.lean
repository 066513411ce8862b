import Reckoner.Token.Scanner

/-! Kinds of characters.

What a scan asks of a character is whether it is a letter, a digit, a blank or a sign.
These facts tell how the kinds exclude or contain each other, and that letters and digits
are among the first 128 characters. -/
namespace Reckoner
variable {c : Char}

theorem isAlphanum_of_isAlpha (h : c.isAlpha = true) : c.isAlphanum = true := by
  rw [Char.isAlphanum, h, Bool.true_or]

theorem isAlphanum_of_isDigit (h : c.isDigit = true) : c.isAlphanum = true := by
  rw [Char.isAlphanum, h, Bool.or_true]

theorem isAlpha_of_isDigit (h : c.isDigit = true) : c.isAlpha = false := by
  have small := (Char.isDigit_iff_toNat.mp h).2
  have range {b : UInt32} (le : b ≤ c.val) : b.toNat ≤ '9'.toNat :=
    Nat.le_trans (UInt32.le_iff_toNat_le.mp le) small
  refine Bool.eq_false_iff.mpr fun letter => ?_
  rcases (Bool.or_eq_true _ _).mp letter with upper | lower
  · have large : c.val ≥ 'A'.val ∧ c.val ≤ 'Z'.val := of_decide_eq_true upper
    exact absurd (range large.1) (by decide)
  · have large : c.val ≥ 'a'.val := of_decide_eq_true ((Bool.and_eq_true _ _).mp lower).1
    exact absurd (range large) (by decide)

theorem isAlphanum_of_isBlank (h : Scanner.isBlank c = true) : c.isAlphanum = false ∧ c ≠ '.' := by
  have small : c.toNat < 33 := by
    simp only [Scanner.isBlank, Bool.or_eq_true, Bool.and_eq_true, decide_eq_true_eq] at h
    rcases h with (rfl | h) | h
    · decide
    · omega
    · omega
  have none : ∀ n < 33, (Char.ofNat n).isAlphanum = false ∧ Char.ofNat n ≠ '.' := by decide
  rw [← Char.ofNat_toNat c]
  exact none _ small

theorem toNat_lt_of_isAlphanum (h : c.isAlphanum = true) : c.toNat < 128 := by
  rcases (Bool.or_eq_true _ _).mp h with letter | digit
  · rcases (Bool.or_eq_true _ _).mp letter with upper | lower
    · have range : c.val ≥ 'A'.val ∧ c.val ≤ 'Z'.val := of_decide_eq_true upper
      exact Nat.lt_of_le_of_lt (UInt32.le_iff_toNat_le.mp range.2) (by decide)
    · have range : c.val ≤ 'z'.val := of_decide_eq_true ((Bool.and_eq_true _ _).mp lower).2
      exact Nat.lt_of_le_of_lt (UInt32.le_iff_toNat_le.mp range) (by decide)
  · exact Nat.lt_of_le_of_lt (Char.isDigit_iff_toNat.mp digit).2 (by decide)

end Reckoner

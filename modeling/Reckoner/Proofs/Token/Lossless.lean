import Reckoner.Proofs.Token.Cutting

/-! Nothing of a text is lost.

The tokens of a text are pieces of it, one behind the other, each with the place of its first
character, and between them stand blanks and comments only (`Cut`). A lexer gives the tokens of
a text of the ASCII alphabet up to its end (`Lexer.collect_within`), and there it stays. -/
namespace Reckoner

/-- Characters that a comment may have. -/
def IsRemark (cs : List Char) : Prop :=
  ∀ c ∈ cs, c ≠ '\n' ∧ c ≠ '\r'

/-- Blanks and comments. A comment ends before a line break. Only a comment in the last gap
of a text may be without one. -/
inductive IsGap (last : Bool) : List Char → Prop where
  | nil : IsGap last []
  | blank {c cs} : Scanner.isBlank c = true → IsGap last cs → IsGap last (c :: cs)
  | comment {remark c cs} : IsRemark remark → c = '\n' ∨ c = '\r' → IsGap last cs →
    IsGap last ('#' :: (remark ++ c :: cs))
  | unfinished {remark} : last = true → IsRemark remark → IsGap last ('#' :: remark)

/-- A text is cut into tokens from an index on. -/
inductive Cut (file : String) (text : List Char) : Nat → List Token → Prop where
  | done {a} : a ≤ text.length → IsGap true (text.drop a) → Cut file text a []
  | token {a b e t ts} : a ≤ b → b < e → e ≤ text.length → IsGap false (text.extract a b) →
    t.lexeme = String.ofList (text.extract b e) → t.location = some (.behind file (text.take b)) →
    Cut file text e ts → Cut file text a (t :: ts)

mutual

/-- What is skipped is a gap. -/
theorem isGap_layout {last : Bool} : (cs : List Char) → ((layout false cs).2 = [] → last = true) →
    IsGap last (layout false cs).1
  | [], _ => .nil
  | c :: cs, ends => by
    unfold layout at ends ⊢
    split
    · exact .nil
    · rename_i inside goes
      rw [goes] at ends
      simp only [Scanner.skipped, Bool.false_and, Bool.false_eq_true, if_false] at goes
      split at goes
      · rename_i blank
        cases goes
        exact .blank blank (isGap_layout cs ends)
      · split at goes
        · rename_i sharp
          cases goes
          subst sharp
          exact isGap_remark cs [] (List.forall_mem_nil _) ends
        · cases goes

/-- So is a comment that has begun, with what is skipped behind it. -/
theorem isGap_remark {last : Bool} : (cs remark : List Char) → IsRemark remark →
    ((layout true cs).2 = [] → last = true) → IsGap last ('#' :: (remark ++ (layout true cs).1))
  | [], remark, fine, ends => by
    rw [layout, List.append_nil]
    exact .unfinished (ends rfl) fine
  | c :: cs, remark, fine, ends => by
    unfold layout at ends ⊢
    by_cases goes : c ≠ '\n' ∧ c ≠ '\r'
    · have inside : Scanner.skipped true c = some true := by
        simp [Scanner.skipped, goes]
      rw [inside] at ends ⊢
      have longer : IsRemark (remark ++ [c]) :=
        List.forall_mem_append.mpr ⟨fine, List.forall_mem_singleton.mpr goes⟩
      have rest := isGap_remark cs (remark ++ [c]) longer ends
      rwa [List.append_assoc, List.singleton_append] at rest
    · have broken : c = '\n' ∨ c = '\r' := by
        rwa [not_and_or, not_not, not_not] at goes
      have outside : Scanner.skipped true c = some false := by
        rcases broken with rfl | rfl <;> decide
      rw [outside] at ends ⊢
      exact .comment fine broken (isGap_layout cs ends)

end

/-- A text without tokens is a gap. -/
theorem isGap_of_layout_nil {cs gap : List Char} (h : layout false cs = (gap, [])) :
    IsGap true cs := by
  have last : IsGap true (layout false cs).1 := isGap_layout cs fun _ => rfl
  have whole := append_of_layout h
  rw [List.append_nil] at whole
  rwa [h, whole] at last

/-- In front of a token there is a gap. -/
theorem isGap_of_layout_cons {cs gap rest : List Char} {c : Char}
    (h : layout false cs = (gap, c :: rest)) : IsGap false gap := by
  have between : IsGap false (layout false cs).1 := isGap_layout cs (by simp [h])
  rwa [h] at between

theorem extract_append (before part left : List Char) :
    (before ++ (part ++ left)).extract before.length (before ++ part).length = part := by
  simp [List.extract]

/-- The tokens of a text cut it. -/
theorem cut_tokensFrom (file : String) (before cs : List Char) :
    Cut file (before ++ cs) before.length (tokensFrom file before cs) := by
  fun_induction tokensFrom file before cs with
  | case1 before cs gap found =>
    refine .done (by simp) ?_
    rw [List.drop_left]
    exact isGap_of_layout_nil found
  | case2 before cs gap c rest found _ ih =>
    have between := isGap_of_layout_cons found
    have some := List.length_pos_iff.mpr (word_ne_nil c rest)
    rw [List.append_assoc, word_append] at ih
    have whole : before ++ gap ++ c :: rest = before ++ cs := by
      rw [List.append_assoc, append_of_layout found]
    have here : (before ++ cs).extract before.length (before ++ gap).length = gap := by
      rw [← append_of_layout found, extract_append]
    have there := extract_append (before ++ gap) (word (c :: rest))
      ((c :: rest).drop (word (c :: rest)).length)
    rw [word_append, whole] at there
    rw [whole] at ih
    refine .token (b := (before ++ gap).length) (by simp) (by simpa using some) ?_
      (here.symm ▸ between) ?_ ?_ ih
    · have inside := congrArg List.length (word_append (c :: rest))
      rw [← whole]
      simp only [List.length_append] at inside ⊢
      omega
    · rw [Token.lexeme_ofWord, there]
    · rw [Token.location_ofWord, ← whole, List.take_left]

/-! ### Lexers -/

namespace Lexer
variable {file : String} {before cs gap rest : List Char} {c : Char} {l : Lexer}

theorem collect_of_end {m : Lexer} {t : Token} (h : l.next = (.ok t, m)) (last : t.kind = .endOfInput)
    (earlier : List Token) : collect earlier l = (.ok (t :: earlier).reverse, m) := by
  rw [collect]
  split
  · rename_i failed
    cases h.symm.trans failed
  · rename_i taken
    cases h.symm.trans taken
    rw [dif_pos last]

theorem collect_of_token {m : Lexer} {t : Token} (h : l.next = (.ok t, m))
    (more : t.kind ≠ .endOfInput) (earlier : List Token) :
    collect earlier l = collect (t :: earlier) m := by
  rw [collect]
  split
  · rename_i failed
    cases h.symm.trans failed
  · rename_i taken
    cases h.symm.trans taken
    rw [dif_neg more]

/-- A lexer behind the last token of a text. -/
theorem next_of_layout_nil (here : l.scanner.next = Scanner.next (.within file before cs))
    (ascii : IsAscii cs) (h : layout false cs = (gap, [])) :
    l.next = (.ok (.finish (some (.atEnd file (before ++ cs)))),
      { scanner := .within file (before ++ cs) []
        current := some (.finish (some (.atEnd file (before ++ cs))))
        faults := l.faults }) := by
  have whole := append_of_layout h
  rw [List.append_nil] at whole
  rw [next, here, Scanner.next_within_nil ascii h, whole]
  simp [Token.fault?, Token.finish]

/-- A lexer in front of a token of a text. -/
theorem next_of_layout_cons (here : l.scanner.next = Scanner.next (.within file before cs))
    (ascii : IsAscii cs) (h : layout false cs = (gap, c :: rest)) :
    ∃ m, l.next = (.ok (.ofWord (word (c :: rest)) (.behind file (before ++ gap))), m) ∧
      m.scanner = .within file (before ++ gap ++ word (c :: rest))
        ((c :: rest).drop (word (c :: rest)).length) := by
  rw [next, here, Scanner.next_within_cons ascii h]
  exact ⟨_, rfl, rfl⟩

/-- A lexer in a text gives its tokens one after the other, and then the end of the input. -/
theorem collect_within (here : l.scanner.next = Scanner.next (.within file before cs))
    (ascii : IsAscii cs) (earlier : List Token) :
    ∃ m, collect earlier l = (.ok (earlier.reverse ++ (tokensFrom file before cs ++
        [.finish (some (.atEnd file (before ++ cs)))])), m) ∧
      m.next = (.ok (.finish (some (.atEnd file (before ++ cs)))), m) := by
  fun_induction tokensFrom file before cs generalizing l earlier with
  | case1 before cs gap found =>
    rw [collect_of_end (next_of_layout_nil here ascii found) rfl]
    refine ⟨_, by rw [List.reverse_cons, List.nil_append], ?_⟩
    rw [next_of_layout_nil rfl (List.forall_mem_nil _) rfl, List.append_nil]
  | case2 before cs gap c rest found _ ih =>
    obtain ⟨m, given, there⟩ := next_of_layout_cons here ascii found
    obtain ⟨n, collected, stays⟩ := ih (by rw [there]) (ascii.behind_word found)
      (.ofWord (word (c :: rest)) (.behind file (before ++ gap)) :: earlier)
    rw [append_behind_word found] at collected stays
    refine ⟨n, ?_, stays⟩
    rw [collect_of_token given (Token.kind_ofWord (word_ne_nil c rest) _), collected,
      List.reverse_cons, List.append_assoc]
    rfl

/-- **A text is cut into its tokens, and nothing is lost.** Every token is a piece of the text
at its place, and all the rest are blanks and comments. The end of the input comes once, at the
last character, and from then on nothing changes any more. -/
theorem rest_ofString (file text : String) (ascii : IsAscii text.toList) :
    ∃ ts m, (ofSource file (.ofString text)).rest =
        (.ok (ts ++ [.finish (some (.atEnd file text.toList))]), m) ∧
      (∀ t ∈ ts, t.kind ≠ .endOfInput) ∧ Cut file text.toList 0 ts ∧
      m.next = (.ok (.finish (some (.atEnd file text.toList))), m) := by
  obtain ⟨m, collected, stays⟩ := collect_within (l := ofSource file (.ofString text))
    (Scanner.next_start ascii) ascii []
  refine ⟨_, m, ?_, fun t => kind_of_mem_tokensFrom, cut_tokensFrom file [] text.toList,
    stays⟩
  exact collected

/-- A text of two lines with a comment, cut up to its end on the second line. -/
theorem rest_of_lines : IsAscii "a #b\n;".toList ∧
    ∃ ts m, (ofSource "<stdin>" (.ofString "a #b\n;")).rest =
        (.ok (ts ++ [.finish (some ⟨"<stdin>", 2, 1, 6⟩)]), m) ∧
      Cut "<stdin>" "a #b\n;".toList 0 ts := by
  have ascii : IsAscii "a #b\n;".toList := by decide
  have last : Location.atEnd "<stdin>" "a #b\n;".toList = ⟨"<stdin>", 2, 1, 6⟩ := by decide
  obtain ⟨ts, m, given, -, cut, -⟩ := rest_ofString "<stdin>" "a #b\n;" ascii
  exact ⟨ascii, ts, m, last ▸ given, cut⟩

end Lexer

end Reckoner

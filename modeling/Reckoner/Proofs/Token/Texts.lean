import Reckoner.Proofs.Expr.Places
import Reckoner.Proofs.Token.Lossless

/-! Texts behind one another.

The feed of a text holds its tokens and then ends (`Feed.ofSource_ofString`). What stands
before a text moves its tokens and changes nothing else of them (`relocate_tokensFrom`).
And a text that ends in a separator, outside of a comment, is cut as it would be alone,
whatever follows it (`tokensFrom_append`): neither a word nor a gap reaches over a
separator. -/
namespace Reckoner

namespace Feed
variable {s u : Scanner} {t : Token}

theorem unroll_of_end (h : Scanner.next s = .ok t u) (last : t.kind = .endOfInput)
    (earlier : List Scanned) : unroll earlier s = (earlier.reverse, .finished t.location) := by
  rw [unroll]
  split
  · rename_i given
    cases h.symm.trans given
    rw [dif_pos last]
  · rename_i failed
    cases h.symm.trans failed

theorem unroll_of_token (h : Scanner.next s = .ok t u) (more : t.kind ≠ .endOfInput)
    (earlier : List Scanned) : unroll earlier s = unroll (.ok t :: earlier) u := by
  rw [unroll]
  split
  · rename_i given
    cases h.symm.trans given
    rw [dif_neg more]
  · rename_i failed
    cases h.symm.trans failed

variable {file : String} {before cs : List Char}

theorem unroll_within (here : Scanner.next s = Scanner.next (.within file before cs))
    (ascii : IsAscii cs) (earlier : List Scanned) :
    unroll earlier s = (earlier.reverse ++ (tokensFrom file before cs).map .ok,
      .finished (some (.atEnd file (before ++ cs)))) := by
  fun_induction tokensFrom file before cs generalizing s earlier with
  | case1 before cs gap found =>
    rw [Scanner.next_within_nil ascii found] at here
    rw [unroll_of_end here rfl, ← append_of_layout found]
    simp [Token.finish]
  | case2 before cs gap c rest found _ ih =>
    rw [Scanner.next_within_cons ascii found] at here
    rw [unroll_of_token here (Token.kind_ofWord (word_ne_nil c rest) _),
      ih rfl (ascii.behind_word found), append_behind_word found]
    simp

/-- The feed of a text. -/
theorem ofSource_ofString (file : String) {text : String} (ascii : IsAscii text.toList) :
    ofSource file (.ofString text) =
      { ahead := (tokensFrom file [] text.toList).map .ok
        ending := .finished (some (.atEnd file text.toList)) } := by
  have unrolled := unroll_within (Scanner.next_start ascii : Scanner.next { file, source := _ } = _)
    ascii []
  simp only [ofSource, ofLexer, Lexer.ofSource, Source.ofString, unrolled]
  rfl

theorem isStream_tokens (t : Option Token) (x : Array Token.Fault) (ts : List Token)
    (l : Option Location) : (Feed.mk t x (ts.map .ok) (.finished l)).IsStream := by
  refine ⟨fun scanned mem => ?_, l, rfl⟩
  obtain ⟨u, -, rfl⟩ := List.mem_map.mp mem
  exact ⟨u, rfl⟩

theorem isStream_ofString (file : String) {text : String} (ascii : IsAscii text.toList) :
    (ofSource file (.ofString text)).IsStream := by
  rw [ofSource_ofString file ascii]
  exact isStream_tokens _ _ _ _

end Feed

/-- The tokens of a text, with the end of the input. -/
theorem Lexer.tokens_eq (file : String) {text : String} (ascii : IsAscii text.toList) :
    Lexer.tokens file text =
      .ok (tokensFrom file [] text.toList ++ [.finish (some (.atEnd file text.toList))]) := by
  obtain ⟨m, collected, -⟩ := collect_within (l := ofSource file (.ofString text))
    (Scanner.next_start ascii) ascii []
  rw [tokens, rest, collected]
  rfl

/-! ### Places in the text -/

theorem Token.relocate_ofWord (w : List Char) (l k : Location) :
    (ofWord w l).relocate (fun _ => none) = (ofWord w k).relocate (fun _ => none) := by
  rw [ofWord_eq w l k]
  rfl

/-- The tokens of a text do not depend on what stands before it, apart from their places. -/
theorem relocate_tokensFrom (file file' : String) (before before' cs : List Char) :
    (tokensFrom file before cs).map (Token.relocate fun _ => none) =
      (tokensFrom file' before' cs).map (Token.relocate fun _ => none) := by
  fun_induction tokensFrom file before cs generalizing before' with
  | case1 before cs gap found => rw [tokensFrom_nil found]
  | case2 before cs gap c rest found _ ih =>
    rw [tokensFrom_cons found, List.map_cons, List.map_cons, ih]
    rw [Token.relocate_ofWord _ _ (.behind file' (before' ++ gap))]

/-! ### Separators -/

/-- The last character of a text is a separator, and it is a token of the text. -/
structure EndsInSeparator (file text : String) : Prop where
  last : text.toList.getLast? = some ';'
  token : ∃ ts t l, Lexer.tokens file text = .ok ts ∧ t ∈ ts ∧ t.isSymbol ";" = true ∧
    t.location = some l ∧ l.offset = text.length

section
variable {p q : List Char}

theorem layout_append_right {comment : Bool} {c : Char} {gap rest : List Char}
    (h : layout comment p = (gap, c :: rest)) (q : List Char) :
    layout comment (p ++ q) = (gap, c :: (rest ++ q)) := by
  induction p generalizing comment gap with
  | nil => cases h
  | cons d p ih =>
    rw [List.cons_append]
    unfold layout at h ⊢
    split
    · rename_i stays
      simp only [stays] at h
      cases h
      rfl
    · rename_i inside goes
      simp only [goes, Prod.mk.injEq] at h
      obtain ⟨rfl, rest⟩ := h
      rw [ih (Prod.ext rfl rest)]

/-- A run does not reach over a character that does not fit. -/
theorem takeWhile_append_of_mem {f : Char → Bool} {c : Char} (mem : c ∈ p) (stays : f c = false)
    (q : List Char) : (p ++ q).takeWhile f = p.takeWhile f := by
  rw [List.takeWhile_append, if_neg]
  intro all
  have whole := List.takeWhile_eq_self_iff.mp
    ((List.takeWhile_sublist f).eq_of_length all) c mem
  rw [stays] at whole
  cases whole

theorem mem_dropWhile {f : Char → Bool} {c : Char} (mem : c ∈ p) (stays : f c = false) :
    c ∈ p.dropWhile f := by
  rw [← List.takeWhile_append_dropWhile (p := f) (l := p)] at mem
  rcases List.mem_append.mp mem with inside | behind
  · rw [List.mem_takeWhile_imp inside] at stays
    cases stays
  · exact behind

theorem figures_append_of_mem (mem : ';' ∈ p) (q : List Char) : figures (p ++ q) = figures p := by
  have left := mem_dropWhile mem (by decide : Char.isDigit ';' = false)
  obtain ⟨d, more, behind⟩ := List.exists_cons_of_ne_nil (List.ne_nil_of_mem left)
  rw [behind] at left
  have whole : (p ++ q).dropWhile Char.isDigit = d :: (more ++ q) := by
    rw [List.dropWhile_append, behind]
    rfl
  have run := takeWhile_append_of_mem mem (by decide : Char.isDigit ';' = false) q
  by_cases point : d = '.'
  · subst point
    have later : ';' ∈ more := (List.mem_cons.mp left).resolve_left (by decide)
    rw [figures_of_point whole, figures_of_point behind, run,
      takeWhile_append_of_mem later (by decide)]
  · rw [figures_of_no_point (by simpa [whole] using point),
      figures_of_no_point (by simpa [behind] using point), run]

/-- A word does not reach over a separator. -/
theorem word_append_of_mem (mem : ';' ∈ p) (q : List Char) : word (p ++ q) = word p := by
  cases p with
  | nil => cases mem
  | cons c p =>
    have run := takeWhile_append_of_mem mem (by decide : Char.isAlphanum ';' = false) q
    have numeral := figures_append_of_mem mem q
    rw [List.cons_append] at run numeral ⊢
    rw [word, word, run, numeral]

/-- A separator is a word of its own. -/
theorem word_eq_of_mem (mem : ';' ∈ word p) : word p = [';'] := by
  cases p with
  | nil => cases mem
  | cons c p =>
    have numeral : ';' ∉ figures (c :: p) := by
      intro inside
      unfold figures at inside
      rcases List.mem_append.mp inside with whole | digits
      · exact absurd (List.mem_takeWhile_imp whole) (by decide)
      · split at digits
        · rcases List.mem_cons.mp digits with point | digits
          · cases point
          · exact absurd (List.mem_takeWhile_imp digits) (by decide)
        · cases digits
    simp only [word] at mem ⊢
    split at mem
    · exact absurd (List.mem_takeWhile_imp mem) (by decide)
    · rename_i letter
      split at mem
      · exact absurd mem numeral
      · rename_i start
        rw [if_neg letter, if_neg start, ← List.mem_singleton.mp mem]

/-- The token of the last character is not that of the first word if there is more behind it. -/
theorem mem_behind_word {file : String} {before gap rest : List Char} {c : Char} {t : Token}
    {l : Location} (found : layout false p = (gap, c :: rest))
    (more : (c :: rest).drop (word (c :: rest)).length ≠ []) (mem : t ∈ tokensFrom file before p)
    (place : t.location = some l) (offset : l.offset = (before ++ p).length) :
    t ∈ tokensFrom file (before ++ gap ++ word (c :: rest))
      ((c :: rest).drop (word (c :: rest)).length) := by
  rw [tokensFrom_cons found] at mem
  rcases List.mem_cons.mp mem with rfl | mem
  · have front := List.length_pos_iff.mpr (word_ne_nil c rest)
    have back := List.length_pos_iff.mpr more
    have lengths := congrArg List.length (append_behind_word found before)
    cases (Token.location_ofWord _ _).symm.trans place
    simp only [Location.behind, List.length_append] at offset lengths
    omega
  · exact mem

/-- **What follows a separator does not change the tokens before it.** -/
theorem tokensFrom_append (file : String) (before q : List Char) (last : p.getLast? = some ';')
    (token : ∃ t ∈ tokensFrom file before p, ∃ l, t.location = some l ∧
      l.offset = (before ++ p).length) :
    tokensFrom file before (p ++ q) = tokensFrom file before p ++ tokensFrom file (before ++ p) q ∧
      ∃ t ∈ (tokensFrom file before p).getLast?, t.isSymbol ";" = true := by
  fun_induction tokensFrom file before p with
  | case1 =>
    obtain ⟨t, none, -⟩ := token
    cases none
  | case2 before p gap c rest found shorter ih =>
    have parts := append_of_layout found
    have ends : (c :: rest).getLast? = some ';' := by
      rw [← last, ← parts, List.getLast?_append_cons]
    have mem := List.mem_of_getLast? ends
    have same := word_append_of_mem mem q
    have behind : (c :: (rest ++ q)).drop (word (c :: (rest ++ q))).length =
        (c :: rest).drop (word (c :: rest)).length ++ q := by
      rw [← List.cons_append, same]
      refine drop_of_append ?_
      rw [← List.append_assoc, word_append]
    rw [tokensFrom_cons (layout_append_right found q), behind, ← List.cons_append, same]
    have whole := append_behind_word found before
    by_cases none : (c :: rest).drop (word (c :: rest)).length = []
    · have only := word_append (c :: rest)
      rw [none, List.append_nil] at whole only
      have single := word_eq_of_mem (only.symm ▸ mem)
      have rest : tokensFrom file (before ++ p) [] = [] := tokensFrom_nil rfl
      rw [none, List.nil_append, whole, rest, single]
      exact ⟨rfl, _, rfl, rfl⟩
    · have later : ((c :: rest).drop (word (c :: rest)).length).getLast? = some ';' := by
        rw [← ends, ← word_append (c :: rest), List.getLast?_append,
          Option.or_of_isSome (List.getLast?_isSome.mpr none), word_append]
      obtain ⟨t, mem, l, place, offset⟩ := token
      rw [← tokensFrom_cons found] at mem
      have inside := mem_behind_word found none mem place offset
      obtain ⟨tokens, t', last, separator⟩ :=
        ih later ⟨t, inside, l, place, by rw [offset, whole]⟩
      rw [whole] at tokens
      rw [tokens]
      refine ⟨rfl, t', ?_, separator⟩
      rw [List.getLast?_cons, Option.mem_def.mp last]
      rfl

end

/-- A text behind a separator is cut as it would be alone, at its own places. -/
theorem EndsInSeparator.tokensFrom_append {file p : String} (ends : EndsInSeparator file p)
    (ascii : IsAscii p.toList) (q : List Char) :
    tokensFrom file [] (p.toList ++ q) = tokensFrom file [] p.toList ++ tokensFrom file p.toList q ∧
      ∃ t ∈ (tokensFrom file [] p.toList).getLast?, t.isSymbol ";" = true := by
  obtain ⟨last, ts, t, l, given, mem, separator, place, offset⟩ := ends
  rw [Lexer.tokens_eq file ascii] at given
  cases given
  have inside : t ∈ tokensFrom file [] p.toList := by
    rcases List.mem_append.mp mem with inside | ending
    · exact inside
    · rw [List.mem_singleton.mp ending] at separator
      cases separator
  exact Reckoner.tokensFrom_append file [] q last ⟨t, inside, l, place, offset⟩

end Reckoner

import Reckoner.Proofs.Expr.Shape
import Reckoner.Proofs.Token.Texts

/-! Words and the gaps between them.

What a text is cut into can be put together again. A word that is followed by something
which cannot belong to it is cut off there (`tokensOf_word`), and what stands in a gap is of
no account (`tokensOf_gap`). So a text is read as its words (`tokensOf_eq`), and any text of
the same words with gaps between them is read alike (`tokensOf_spread`). -/
namespace Reckoner

/-- A piece of a text that can be a token: it starts with no blank and no comment, and none
of it belongs to another token. -/
structure IsWord (w : List Char) : Prop where
  nonempty : w ≠ []
  start : layout false w = ([], w)
  whole : word w = w

/-- A text with which no name and no numeral in front of it goes on. -/
def Stops (cs : List Char) : Prop :=
  ∀ c ∈ cs.head?, c.isAlphanum = false ∧ c ≠ '.'

/-- The token of a word, without a place. -/
def Token.ofSpelling (w : List Char) : Token :=
  (ofWord w ⟨"", 0, 0, 0⟩).relocate fun _ => none

/-- The tokens of a text, without their places. -/
def tokensOf (cs : List Char) : List Token :=
  (tokensFrom "" [] cs).map (Token.relocate fun _ => none)

section
variable {w cs gap rest : List Char} {c : Char}

theorem map_tokensFrom (file : String) (before cs : List Char) :
    (tokensFrom file before cs).map (Token.relocate fun _ => none) = tokensOf cs :=
  relocate_tokensFrom file "" before [] cs

theorem tokensOf_nil : tokensOf [] = [] := by
  rw [tokensOf, tokensFrom_nil rfl, List.map_nil]

/-! ### Gaps -/

theorem layout_remark {remark : List Char} (fine : IsRemark remark) (cs : List Char) :
    layout true (remark ++ cs) = (remark ++ (layout true cs).1, (layout true cs).2) := by
  induction remark with
  | nil => rfl
  | cons c remark ih =>
    obtain ⟨here, fine⟩ := List.forall_mem_cons.mp fine
    have inside : Scanner.skipped true c = some true := by simp [Scanner.skipped, here]
    rw [List.cons_append, layout, inside]
    dsimp only
    rw [ih fine, List.cons_append]

/-- A gap is skipped, and what stands behind it. Behind a comment that does not end there is
nothing. -/
theorem layout_append_of_isGap {last : Bool} (h : IsGap last gap) (ends : last = true → cs = []) :
    layout false (gap ++ cs) = (gap ++ (layout false cs).1, (layout false cs).2) := by
  induction h with
  | nil => rfl
  | @blank c gap blank _ ih =>
    have skipped : Scanner.skipped false c = some false := by simp [Scanner.skipped, blank]
    rw [List.cons_append, layout, skipped]
    dsimp only
    rw [ih, List.cons_append]
  | @comment remark c gap fine broken _ ih =>
    have sharp : Scanner.skipped false '#' = some true := by decide
    have ended : Scanner.skipped true c = some false := by rcases broken with rfl | rfl <;> decide
    rw [List.cons_append, layout, sharp]
    dsimp only
    rw [List.append_assoc, layout_remark fine, List.cons_append, layout, ended]
    dsimp only
    rw [ih]
    simp
  | @unfinished remark begun fine =>
    have sharp : Scanner.skipped false '#' = some true := by decide
    have whole := layout_remark fine []
    rw [ends begun, List.append_nil, layout.eq_2, sharp]
    dsimp only
    rw [List.append_nil, layout] at whole
    rw [whole, layout, List.append_nil, List.append_nil]

theorem layout_gap (h : IsGap false gap) (cs : List Char) :
    layout false (gap ++ cs) = (gap ++ (layout false cs).1, (layout false cs).2) :=
  layout_append_of_isGap h nofun

theorem layout_of_isGap {last : Bool} (h : IsGap last gap) : layout false gap = (gap, []) := by
  have whole := layout_append_of_isGap h fun _ => rfl
  rwa [List.append_nil, layout, List.append_nil] at whole

theorem tokensOf_gap (h : IsGap false gap) (cs : List Char) : tokensOf (gap ++ cs) = tokensOf cs := by
  have skipped := layout_gap h cs
  unfold tokensOf
  cases found : layout false cs with
  | mk between left =>
    rw [found] at skipped
    cases left with
    | nil => rw [tokensFrom_nil skipped, tokensFrom_nil found]
    | cons c rest =>
      rw [tokensFrom_cons skipped, tokensFrom_cons found, List.map_cons, List.map_cons,
        map_tokensFrom, map_tokensFrom, Token.relocate_ofWord]

/-! ### Words -/

theorem skipped_eq_none_iff :
    Scanner.skipped false c = none ↔ Scanner.isBlank c = false ∧ c ≠ '#' := by
  cases blank : Scanner.isBlank c <;> simp [Scanner.skipped, blank]

/-- Neither a blank nor a comment starts like a name or a numeral. -/
theorem skipped_of_start (start : c.isAlphanum = true ∨ c = '.') :
    Scanner.skipped false c = none := by
  refine skipped_eq_none_iff.mpr ⟨Bool.eq_false_iff.mpr fun blank => ?_, ?_⟩
  · obtain ⟨none, ne⟩ := isAlphanum_of_isBlank blank
    exact start.elim (Bool.eq_false_iff.mp none) ne
  · rintro rfl
    exact start.elim (by decide) (by decide)

theorem stops_of_gap (h : IsGap false gap) (some : gap ≠ []) (cs : List Char) :
    Stops (gap ++ cs) := by
  have sharp : ('#' : Char).isAlphanum = false ∧ '#' ≠ '.' := by decide
  cases h with
  | nil => exact absurd rfl some
  | @blank c gap blank _ =>
    rintro _ ⟨⟩
    exact isAlphanum_of_isBlank blank
  | comment _ _ _ =>
    rintro _ ⟨⟩
    exact sharp
  | unfinished last _ => cases last

theorem takeWhile_of_stops {p : Char → Bool} (stops : Stops rest)
    (fits : ∀ c, p c = true → c.isAlphanum = true) : rest.takeWhile p = [] := by
  cases rest with
  | nil => rfl
  | cons c rest =>
    obtain ⟨other, -⟩ := stops c rfl
    refine List.takeWhile_cons_of_neg fun fit => ?_
    rw [fits c fit] at other
    cases other

theorem dropWhile_of_stops {p : Char → Bool} (stops : Stops rest)
    (fits : ∀ c, p c = true → c.isAlphanum = true) : rest.dropWhile p = rest := by
  have parts := List.takeWhile_append_dropWhile (p := p) (l := rest)
  rwa [takeWhile_of_stops stops fits, List.nil_append] at parts

/-- A run ends where something else begins. -/
theorem takeWhile_append_of_stops {p : Char → Bool} (whole : ∀ c ∈ w, p c = true)
    (stops : Stops rest) (fits : ∀ c, p c = true → c.isAlphanum = true) :
    (w ++ rest).takeWhile p = w := by
  rw [List.takeWhile_append_of_pos whole, takeWhile_of_stops stops fits, List.append_nil]

/-- A numeral ends where something else begins. -/
theorem figures_append_of_stops (whole : figures w = w) (stops : Stops rest) :
    figures (w ++ rest) = w := by
  have digits : ∀ d ∈ w.takeWhile Char.isDigit, d.isDigit = true := fun d hd =>
    List.mem_takeWhile_imp hd
  have parts : w.takeWhile Char.isDigit ++ w.dropWhile Char.isDigit = w :=
    List.takeWhile_append_dropWhile
  by_cases point : (w.dropWhile Char.isDigit).head? = some '.'
  · obtain ⟨more, behind⟩ := List.head?_eq_some_iff.mp point
    rw [figures_of_point behind] at whole
    have later : more.takeWhile Char.isDigit = more := by
      rw [behind] at parts
      simpa using whole.trans parts.symm
    have behind' : (w ++ rest).dropWhile Char.isDigit = '.' :: (more ++ rest) := by
      rw [← parts, behind, List.append_assoc, List.dropWhile_append_of_pos digits, List.cons_append,
        List.dropWhile_cons_of_neg (by decide)]
    have front : (w ++ rest).takeWhile Char.isDigit = w.takeWhile Char.isDigit := by
      conv => lhs; rw [← parts, behind, List.append_assoc]
      rw [List.takeWhile_append_of_pos digits, List.cons_append,
        List.takeWhile_cons_of_neg (by decide), List.append_nil]
    rw [figures_of_point behind', front,
      takeWhile_append_of_stops (List.takeWhile_eq_self_iff.mp later) stops
        (fun _ => isAlphanum_of_isDigit), ← behind, parts]
  · rw [figures_of_no_point point] at whole
    have all := List.takeWhile_eq_self_iff.mp whole
    have behind : (w ++ rest).dropWhile Char.isDigit = rest := by
      rw [List.dropWhile_append_of_pos all, dropWhile_of_stops stops fun _ => isAlphanum_of_isDigit]
    rw [figures_of_no_point, takeWhile_append_of_stops all stops fun _ => isAlphanum_of_isDigit]
    rw [behind]
    exact fun point => (stops _ point).2 rfl

/-- A word ends where something else begins. -/
theorem word_append_of_stops (whole : word w = w) (some : w ≠ []) (stops : Stops rest) :
    word (w ++ rest) = w := by
  obtain ⟨c, w, rfl⟩ := List.exists_cons_of_ne_nil some
  rw [List.cons_append]
  simp only [word] at whole ⊢
  split at whole
  · rename_i letter
    rw [if_pos letter]
    exact takeWhile_append_of_stops (List.takeWhile_eq_self_iff.mp whole) stops fun _ => id
  · rename_i letter
    rw [if_neg letter]
    split at whole
    · rename_i start
      rw [if_pos start]
      exact figures_append_of_stops whole stops
    · rename_i start
      rw [if_neg start, whole]

theorem layout_append_of_start (some : w ≠ []) (start : layout false w = ([], w))
    (rest : List Char) : layout false (w ++ rest) = ([], w ++ rest) := by
  obtain ⟨c, w, rfl⟩ := List.exists_cons_of_ne_nil some
  exact layout_append_right start rest

theorem figures_of_digits (digits : ∀ d ∈ w, d.isDigit = true) : figures w = w := by
  have none : w.dropWhile Char.isDigit = [] := List.dropWhile_eq_nil_iff.mpr digits
  rw [figures_of_no_point (by simp [none]), List.takeWhile_eq_self_iff.mpr digits]

theorem figures_of_parts {more : List Char} (digits : ∀ d ∈ w, d.isDigit = true)
    (digits' : ∀ d ∈ more, d.isDigit = true) : figures (w ++ '.' :: more) = w ++ '.' :: more := by
  have behind : (w ++ '.' :: more).dropWhile Char.isDigit = '.' :: more := by
    rw [List.dropWhile_append_of_pos digits, List.dropWhile_cons_of_neg (by decide)]
  rw [figures_of_point behind, List.takeWhile_append_of_pos digits,
    List.takeWhile_cons_of_neg (by decide), List.append_nil, List.takeWhile_eq_self_iff.mpr digits']

theorem figures_figures (cs : List Char) : figures (figures cs) = figures cs := by
  have digits (cs : List Char) : ∀ d ∈ cs.takeWhile Char.isDigit, d.isDigit = true := fun d hd =>
    List.mem_takeWhile_imp hd
  by_cases point : (cs.dropWhile Char.isDigit).head? = some '.'
  · obtain ⟨more, behind⟩ := List.head?_eq_some_iff.mp point
    rw [figures_of_point behind, figures_of_parts (digits cs) (digits more)]
  · rw [figures_of_no_point point, figures_of_digits (digits cs)]

theorem skipped_false_of_none {comment : Bool} (stays : Scanner.skipped comment c = none) :
    Scanner.skipped false c = none := by
  unfold Scanner.skipped at stays ⊢
  split at stays
  · cases stays
  · rwa [if_neg (by simp)]

theorem skipped_of_layout {comment : Bool} (h : layout comment cs = (gap, c :: rest)) :
    Scanner.skipped false c = none := by
  induction cs generalizing comment gap with
  | nil => cases h
  | cons d cs ih =>
    unfold layout at h
    split at h
    · rename_i stays
      cases h
      exact skipped_false_of_none stays
    · exact ih (Prod.ext rfl (Prod.mk.inj h).2)

/-- What is cut off a text is a word. -/
theorem isWord_word (stays : Scanner.skipped false c = none) : IsWord (word (c :: rest)) := by
  obtain ⟨more, first⟩ := exists_word_cons c rest
  refine ⟨word_ne_nil c rest, ?_, ?_⟩
  · rw [first, layout, stays]
  · by_cases letter : c.isAlpha = true
    · have fits : ∀ d ∈ word (c :: rest), d.isAlphanum = true := by
        rw [word, if_pos letter]
        exact fun d hd => List.mem_takeWhile_imp hd
      rw [first] at fits ⊢
      rw [word, if_pos letter, List.takeWhile_eq_self_iff.mpr fits]
    · by_cases start : (c.isDigit || decide (c = '.')) = true
      · have whole : word (c :: rest) = figures (c :: rest) := by
          rw [word, if_neg letter, if_pos start]
        rw [first] at whole ⊢
        rw [word, if_neg letter, if_pos start, whole, figures_figures]
      · have whole : word (c :: rest) = [c] := by
          rw [word, if_neg letter, if_neg start]
        rw [whole, word, if_neg letter, if_neg start]

/-- **A word is a token of its own** in front of something that cannot belong to it. -/
theorem tokensOf_word (h : IsWord w) (ends : word (w ++ rest) = w) :
    tokensOf (w ++ rest) = .ofSpelling w :: tokensOf rest := by
  obtain ⟨some, start, -⟩ := h
  have found := layout_append_of_start some start rest
  obtain ⟨c, v, rfl⟩ := List.exists_cons_of_ne_nil some
  rw [List.cons_append] at found ends ⊢
  rw [tokensOf, tokensFrom_cons found, List.map_cons, map_tokensFrom, ends, ← List.cons_append,
    List.drop_left, Token.ofSpelling, Token.relocate_ofWord]

theorem tokensOf_word_of_stops (h : IsWord w) (stops : Stops rest) :
    tokensOf (w ++ rest) = .ofSpelling w :: tokensOf rest :=
  tokensOf_word h (word_append_of_stops h.whole h.nonempty stops)

/-- A text is read as its words. -/
theorem exists_words (cs : List Char) :
    ∃ ws : List (List Char), (∀ w ∈ ws, IsWord w) ∧ tokensOf cs = ws.map Token.ofSpelling := by
  suffices ∀ file before, ∃ ws : List (List Char), (∀ w ∈ ws, IsWord w) ∧
      (tokensFrom file before cs).map (Token.relocate fun _ => none) = ws.map Token.ofSpelling from
    this "" []
  intro file before
  fun_induction tokensFrom file before cs with
  | case1 => exact ⟨[], List.forall_mem_nil _, rfl⟩
  | case2 before cs gap c rest found _ ih =>
    obtain ⟨ws, words, same⟩ := ih
    refine ⟨word (c :: rest) :: ws, List.forall_mem_cons.mpr ⟨?_, words⟩, ?_⟩
    · exact isWord_word (skipped_of_layout found)
    · rw [List.map_cons, List.map_cons, same, Token.ofSpelling, Token.relocate_ofWord]

/-- Words with a gap behind each. -/
def spread (pieces : List (List Char × List Char)) : List Char :=
  pieces.flatMap fun p => p.1 ++ p.2

/-- **Gaps are of no account.** Words with gaps between them are read as these words, whatever
the gaps are, as long as there is something in each between two words. -/
theorem tokensOf_spread {first : List Char} {pieces : List (List Char × List Char)}
    (words : ∀ p ∈ pieces, IsWord p.1) (gaps : ∀ gap ∈ first :: pieces.map Prod.snd, IsGap false gap)
    (parted : ∀ p ∈ pieces.dropLast, p.2 ≠ []) :
    tokensOf (first ++ spread pieces) = pieces.map fun p => Token.ofSpelling p.1 := by
  induction pieces generalizing first with
  | nil =>
    rw [tokensOf_gap (gaps first List.mem_cons_self), spread, List.flatMap_nil, tokensOf_nil]
    rfl
  | cons p pieces ih =>
    obtain ⟨w, gap⟩ := p
    obtain ⟨here, gaps⟩ := List.forall_mem_cons.mp gaps
    obtain ⟨word, words⟩ := List.forall_mem_cons.mp words
    have stops : Stops (gap ++ spread pieces) := by
      cases pieces with
      | nil =>
        by_cases none : gap = []
        · exact none ▸ nofun
        · exact stops_of_gap (gaps gap List.mem_cons_self) none _
      | cons q pieces =>
        exact stops_of_gap (gaps gap List.mem_cons_self) (parted (w, gap) List.mem_cons_self) _
    have rest := ih words gaps fun p hp => parted p <| by
      cases pieces with
      | nil => cases hp
      | cons q pieces => exact List.mem_cons_of_mem _ hp
    have whole : spread ((w, gap) :: pieces) = w ++ (gap ++ spread pieces) := by
      rw [spread, List.flatMap_cons, List.append_assoc]
      rfl
    rw [tokensOf_gap here, whole, tokensOf_word_of_stops word stops, rest, List.map_cons]

/-- The text is these words in order, with gaps in front of them, between them and behind them.
There is something in each gap between two words. -/
def IsSpacing (text : String) (words : List String) : Prop :=
  ∃ first pieces, text.toList = first ++ spread pieces ∧
    pieces.map (fun p => String.ofList p.1) = words ∧
    (∀ gap ∈ first :: pieces.map Prod.snd, IsGap false gap) ∧ ∀ p ∈ pieces.dropLast, p.2 ≠ []

/-- **Texts of the same words are read alike.** -/
theorem IsSpacing.tokensOf_eq {text : String}
    (h : IsSpacing text ((tokensOf cs).map (·.lexeme))) : tokensOf text.toList = tokensOf cs := by
  obtain ⟨first, pieces, text, same, gaps, parted⟩ := h
  obtain ⟨ws, words, tokens⟩ := exists_words cs
  have lexeme (w : List Char) : (Token.ofSpelling w).lexeme = String.ofList w :=
    Token.lexeme_ofWord w _
  have spelled : pieces.map Prod.fst = ws := by
    refine List.map_injective_iff.mpr (fun _ _ => String.ofList_inj.mp) ?_
    simpa [tokens, lexeme, Function.comp_def] using same
  have read : tokensOf (first ++ spread pieces) = _ := tokensOf_spread
    (fun p hp => words p.1 (spelled ▸ List.mem_map_of_mem hp)) gaps parted
  rw [text, read, tokens, ← spelled, List.map_map]
  rfl

end

end Reckoner

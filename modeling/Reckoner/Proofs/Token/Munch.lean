import Reckoner.Proofs.Token.Spacing

/-! The longest words.

What a lexer takes from a text is told here without following it: gaps are dropped, and each token
is the longest name or the longest numeral that starts where it stands, or else a single character
(`Munch`, `Munches`). No other tokens can be cut in this way (`munches_iff`), and they are those
that a lexer gives (`Lexer.rest_munches`). Digits and points that stand together are cut in front
of every point but the first (`Munches.run`). -/
namespace Reckoner

/-! ### The rule -/

/-- A piece in front of the rest of a text, longer than any other of its sort there. -/
structure IsLongest (P : List Char → Prop) (w rest : List Char) : Prop where
  fits : P w
  longest : ∀ v, v <+: w ++ rest → P v → v.length ≤ w.length

/-- A letter with letters and digits behind it. -/
def IsNameRun (w : List Char) : Prop :=
  ∃ c more, w = c :: more ∧ c.isAlpha = true ∧ ∀ d ∈ more, d.isAlphanum = true

/-- A digit or a point. -/
def IsFigure (c : Char) : Prop :=
  c.isDigit = true ∨ c = '.'

/-- Digits with at most one point among them. -/
structure IsNumeral (w : List Char) : Prop where
  some : w ≠ []
  figures : ∀ c ∈ w, IsFigure c
  points : w.count '.' ≤ 1

/-- The token that a text has at a place, where the piece `w` stands in front of the rest. -/
inductive Munch (place : Location) (w rest : List Char) : Token → Prop where
  | keyword {k : Token.Keyword} : IsLongest IsNameRun w rest → k.spelling = String.ofList w →
    Munch place w rest { kind := .keyword k, lexeme := String.ofList w, location := place }
  | identifier : IsLongest IsNameRun w rest → (∀ k : Token.Keyword, k.spelling ≠ String.ofList w) →
    Munch place w rest
      { kind := .identifier, lexeme := String.ofList w, location := place
        value := some (.text (String.ofList w)) }
  | whole : IsLongest IsNumeral w rest → '.' ∉ w →
    Munch place w rest
      { kind := .number, lexeme := String.ofList w, location := place
        value := some (.number (Decimal.numeral w [])) }
  | decimal {front digits : List Char} : IsLongest IsNumeral w rest → w = front ++ '.' :: digits →
    w ≠ ['.'] →
    Munch place w rest
      { kind := .number, lexeme := String.ofList w, location := place
        value := some (.number (Decimal.numeral front digits)) }
  | malformed : IsLongest IsNumeral w rest → w = ['.'] →
    Munch place w rest { kind := .malformed, lexeme := String.ofList w, location := place }
  | symbol {c : Char} : w = [c] → c.isAlpha = false → ¬IsFigure c → Scanner.isBlank c = false →
    c ≠ '#' →
    Munch place w rest
      { kind := .symbol, lexeme := String.ofList w, location := place
        value := some (.text (String.ofList w)) }

/-- The tokens of the rest of a text, with gaps between them. -/
inductive Munches (file : String) : List Char → List Char → List Token → Prop where
  | done {before gap} : IsGap true gap → Munches file before gap []
  | token {before gap w rest t ts} : IsGap false gap →
    Munch (.behind file (before ++ gap)) w rest t → Munches file (before ++ gap ++ w) rest ts →
    Munches file before (gap ++ (w ++ rest)) (t :: ts)

section
variable {P : List Char → Prop} {w v rest cs : List Char} {c : Char}

/-- There is one longest piece only. -/
theorem IsLongest.unique {rest' : List Char} (h : IsLongest P w rest) (h' : IsLongest P v rest')
    (same : w ++ rest = v ++ rest') : w = v := by
  refine (List.append_inj same (Nat.le_antisymm ?_ ?_)).1
  · exact h'.longest w (same ▸ List.prefix_append w rest) h.fits
  · exact h.longest v (same ▸ List.prefix_append v rest') h'.fits

/-! ### Names and numerals at the start of a text -/

theorem length_le_takeWhile {p : Char → Bool} (h : v <+: cs) (fits : ∀ d ∈ v, p d = true) :
    v.length ≤ (cs.takeWhile p).length := by
  obtain ⟨left, rfl⟩ := h
  rw [List.takeWhile_append_of_pos fits, List.length_append]
  exact Nat.le_add_right _ _

theorem IsNameRun.alphanum (h : IsNameRun w) : ∀ d ∈ w, d.isAlphanum = true := by
  obtain ⟨c, more, rfl, letter, fits⟩ := h
  exact List.forall_mem_cons.mpr ⟨isAlphanum_of_isAlpha letter, fits⟩

theorem isLongest_name (letter : c.isAlpha = true) :
    IsLongest IsNameRun (word (c :: rest)) ((c :: rest).drop (word (c :: rest)).length) := by
  have whole : word (c :: rest) = (c :: rest).takeWhile Char.isAlphanum := by
    rw [word, if_pos letter]
  constructor
  · rw [whole, List.takeWhile_cons_of_pos (isAlphanum_of_isAlpha letter)]
    exact ⟨c, _, rfl, letter, fun d hd => List.mem_takeWhile_imp hd⟩
  · rw [word_append, whole]
    exact fun v start name => length_le_takeWhile start name.alphanum

theorem isDigit_of_count (h : ∀ d ∈ w, IsFigure d) (none : w.count '.' = 0) :
    ∀ d ∈ w, d.isDigit = true := by
  intro d hd
  refine (h d hd).resolve_right fun point => ?_
  exact List.count_eq_zero.mp none (point ▸ hd)

theorem count_of_digits (h : ∀ d ∈ w, d.isDigit = true) : w.count '.' = 0 :=
  List.count_eq_zero.mpr fun mem => Bool.false_ne_true (h '.' mem)

/-- On both sides of a point there are digits. -/
theorem IsNumeral.sides {front digits : List Char} (h : IsNumeral (front ++ '.' :: digits)) :
    (∀ d ∈ front, d.isDigit = true) ∧ ∀ d ∈ digits, d.isDigit = true := by
  obtain ⟨before, behind⟩ := List.forall_mem_append.mp h.figures
  have points := h.points
  rw [List.count_append, List.count_cons_self] at points
  exact ⟨isDigit_of_count before (by omega),
    isDigit_of_count (List.forall_mem_cons.mp behind).2 (by omega)⟩

theorem IsNumeral.parts (h : IsNumeral w) :
    (∀ d ∈ w, d.isDigit = true) ∨ ∃ front digits, w = front ++ '.' :: digits := by
  by_cases point : '.' ∈ w
  · exact .inr (List.append_of_mem point)
  · exact .inl (isDigit_of_count h.figures (List.count_eq_zero.mpr point))

theorem isNumeral_of_digits (some : w ≠ []) (h : ∀ d ∈ w, d.isDigit = true) : IsNumeral w :=
  ⟨some, fun d hd => .inl (h d hd), (count_of_digits h).le.trans (Nat.zero_le 1)⟩

theorem isNumeral_of_parts {digits : List Char} (h : ∀ d ∈ w, d.isDigit = true)
    (h' : ∀ d ∈ digits, d.isDigit = true) : IsNumeral (w ++ '.' :: digits) := by
  refine ⟨by simp, ?_, ?_⟩
  · exact List.forall_mem_append.mpr ⟨fun d hd => .inl (h d hd),
      List.forall_mem_cons.mpr ⟨.inr rfl, fun d hd => .inl (h' d hd)⟩⟩
  · rw [List.count_append, List.count_cons_self, count_of_digits h, count_of_digits h']

theorem isNumeral_figures (start : IsFigure c) : IsNumeral (figures (c :: rest)) := by
  have digits (cs : List Char) : ∀ d ∈ cs.takeWhile Char.isDigit, d.isDigit = true := fun d hd =>
    List.mem_takeWhile_imp hd
  have some : figures (c :: rest) ≠ [] :=
    figures_ne_nil (by rcases start with digit | rfl <;> simp [*])
  by_cases point : ((c :: rest).dropWhile Char.isDigit).head? = Option.some '.'
  · obtain ⟨more, behind⟩ := List.head?_eq_some_iff.mp point
    rw [figures_of_point behind]
    exact isNumeral_of_parts (digits _) (digits _)
  · rw [figures_of_no_point point] at some ⊢
    exact isNumeral_of_digits some (digits _)

theorem length_le_figures (h : v <+: cs) (numeral : IsNumeral v) :
    v.length ≤ (figures cs).length := by
  rcases numeral.parts with digits | ⟨front, digits, rfl⟩
  · refine (length_le_takeWhile h digits).trans ?_
    rw [figures, List.length_append]
    exact Nat.le_add_right _ _
  · obtain ⟨left, rfl⟩ := h
    obtain ⟨before, behind⟩ := numeral.sides
    have first : (front ++ '.' :: digits ++ left).dropWhile Char.isDigit = '.' :: (digits ++ left) := by
      rw [List.append_assoc, List.dropWhile_append_of_pos before, List.cons_append,
        List.dropWhile_cons_of_neg (by decide)]
    have whole : (front ++ '.' :: digits ++ left).takeWhile Char.isDigit = front := by
      rw [List.append_assoc, List.takeWhile_append_of_pos before, List.cons_append,
        List.takeWhile_cons_of_neg (by decide), List.append_nil]
    rw [figures_of_point first, whole, List.takeWhile_append_of_pos behind]
    simp only [List.length_append, List.length_cons]
    omega

theorem isLongest_numeral (letter : c.isAlpha = false) (start : IsFigure c) :
    IsLongest IsNumeral (word (c :: rest)) ((c :: rest).drop (word (c :: rest)).length) := by
  have whole : word (c :: rest) = figures (c :: rest) := by
    rw [word, if_neg (Bool.eq_false_iff.mp letter), if_pos]
    rcases start with digit | rfl <;> simp [*]
  constructor
  · rw [whole]
    exact isNumeral_figures start
  · rw [word_append, whole]
    exact fun v => length_le_figures

/-! ### The rule tells the tokens -/

theorem isFigure_iff : IsFigure c ↔ (c.isDigit || decide (c = '.')) = true := by
  rw [Bool.or_eq_true, decide_eq_true_eq, IsFigure]

theorem IsFigure.isAlpha (h : IsFigure c) : c.isAlpha = false := by
  rcases h with digit | rfl
  · exact isAlpha_of_isDigit digit
  · decide

section
variable {place : Location} {t : Token}

theorem IsLongest.name_start (h : IsLongest IsNameRun w rest) :
    ∃ c more, w = c :: more ∧ c.isAlpha = true := by
  obtain ⟨c, more, whole, letter, -⟩ := h.fits
  exact ⟨c, more, whole, letter⟩

theorem IsLongest.numeral_start (h : IsLongest IsNumeral w rest) :
    ∃ c more, w = c :: more ∧ IsFigure c := by
  obtain ⟨c, more, whole⟩ := List.exists_cons_of_ne_nil h.fits.some
  exact ⟨c, more, whole, h.fits.figures c (whole ▸ List.mem_cons_self)⟩

theorem Munch.start (h : Munch place w rest t) :
    ∃ c more, w = c :: more ∧ Scanner.skipped false c = none := by
  cases h with
  | keyword long _ | identifier long _ =>
    obtain ⟨c, more, whole, letter⟩ := long.name_start
    exact ⟨c, more, whole, skipped_of_start (.inl (isAlphanum_of_isAlpha letter))⟩
  | whole long _ | decimal long _ _ | malformed long _ =>
    obtain ⟨c, more, whole, figure⟩ := long.numeral_start
    exact ⟨c, more, whole, skipped_of_start (figure.imp_left isAlphanum_of_isDigit)⟩
  | symbol single _ _ blank sharp => exact ⟨_, [], single, skipped_eq_none_iff.mpr ⟨blank, sharp⟩⟩

theorem IsLongest.word_of_name (h : IsLongest IsNameRun w rest) : word (w ++ rest) = w := by
  obtain ⟨c, more, rfl, letter⟩ := h.name_start
  exact ((isLongest_name letter).unique h (word_append _))

theorem IsLongest.word_of_numeral (h : IsLongest IsNumeral w rest) : word (w ++ rest) = w := by
  obtain ⟨c, more, rfl, figure⟩ := h.numeral_start
  exact (isLongest_numeral figure.isAlpha figure).unique h (word_append _)

/-- The piece that the rule takes is the first word. -/
theorem Munch.word_eq (h : Munch place w rest t) : word (w ++ rest) = w := by
  cases h with
  | keyword long _ | identifier long _ => exact long.word_of_name
  | whole long _ | decimal long _ _ | malformed long _ => exact long.word_of_numeral
  | symbol single letter figure _ _ =>
    rw [single, List.singleton_append, word, if_neg (Bool.eq_false_iff.mp letter),
      if_neg (mt isFigure_iff.mpr figure)]

/-- The token of the rule is that of the word. -/
theorem Munch.eq_ofWord (h : Munch place w rest t) : t = .ofWord w place := by
  cases h with
  | @keyword k long spelled =>
    obtain ⟨c, more, rfl, letter⟩ := long.name_start
    rw [Token.ofWord, if_pos letter, ← spelled, Token.Keyword.ofSpelling?_spelling]
  | identifier long other =>
    obtain ⟨c, more, rfl, letter⟩ := long.name_start
    have none : Token.Keyword.ofSpelling? (String.ofList (c :: more)) = none := by
      cases found : Token.Keyword.ofSpelling? (String.ofList (c :: more)) with
      | none => rfl
      | some k => exact absurd (Token.Keyword.spelling_of_ofSpelling? found) (other k)
    rw [Token.ofWord, if_pos letter, none]
  | whole long none =>
    obtain ⟨c, more, rfl, figure⟩ := long.numeral_start
    have digits := isDigit_of_count long.fits.figures (List.count_eq_zero.mpr none)
    rw [Token.ofWord, if_neg (Bool.eq_false_iff.mp figure.isAlpha),
      if_pos (isFigure_iff.mp figure), Scanner.ofFigures_whole digits (List.cons_ne_nil _ _)]
  | @decimal front digits long point more =>
    obtain ⟨c, back, first, figure⟩ := long.numeral_start
    obtain ⟨before, behind⟩ := (point ▸ long.fits).sides
    have figures : ¬(front.isEmpty && digits.isEmpty) = true := by
      rw [Bool.and_eq_true, List.isEmpty_iff, List.isEmpty_iff]
      rintro ⟨rfl, rfl⟩
      exact more point
    rw [first, Token.ofWord, if_neg (Bool.eq_false_iff.mp figure.isAlpha),
      if_pos (isFigure_iff.mp figure), ← first, point, Scanner.ofFigures_point before, if_neg figures]
  | malformed long point =>
    subst point
    rfl
  | symbol single letter figure _ _ =>
    rw [single, Token.ofWord, if_neg (Bool.eq_false_iff.mp letter),
      if_neg (mt isFigure_iff.mpr figure)]

/-- The first word of a text is a piece that the rule takes. -/
theorem munch_word (stays : Scanner.skipped false c = none) (place : Location) :
    Munch place (word (c :: rest)) ((c :: rest).drop (word (c :: rest)).length)
      (.ofWord (word (c :: rest)) place) := by
  obtain ⟨blank, sharp⟩ := skipped_eq_none_iff.mp stays
  obtain ⟨more, first⟩ := exists_word_cons c rest
  by_cases letter : c.isAlpha = true
  · have long : IsLongest IsNameRun (word (c :: rest)) _ := isLongest_name letter
    rw [first] at long ⊢
    rw [Token.ofWord, if_pos letter]
    cases found : Token.Keyword.ofSpelling? (String.ofList (c :: more)) with
    | some k => exact .keyword long (Token.Keyword.spelling_of_ofSpelling? found)
    | none =>
      refine .identifier long fun k same => ?_
      rw [← same, Token.Keyword.ofSpelling?_spelling] at found
      cases found
  · by_cases figure : IsFigure c
    · have long : IsLongest IsNumeral (word (c :: rest)) _ := isLongest_numeral figure.isAlpha figure
      rw [first] at long ⊢
      rw [Token.ofWord, if_neg letter, if_pos (isFigure_iff.mp figure)]
      rcases long.fits.parts with digits | ⟨front, digits, point⟩
      · rw [Scanner.ofFigures_whole digits (List.cons_ne_nil _ _)]
        exact .whole long fun mem => Bool.false_ne_true (digits '.' mem)
      · obtain ⟨before, -⟩ := (point ▸ long.fits).sides
        rw [point] at long ⊢
        rw [Scanner.ofFigures_point before]
        split
        · rename_i none
          rw [Bool.and_eq_true, List.isEmpty_iff, List.isEmpty_iff] at none
          obtain ⟨rfl, rfl⟩ := none
          exact .malformed long rfl
        · rename_i more
          refine .decimal long rfl fun single => more ?_
          rcases List.append_eq_singleton_iff.mp single with ⟨rfl, one⟩ | ⟨-, none⟩
          · rw [(List.cons.inj one).2]
            rfl
          · cases none
    · have whole : word (c :: rest) = [c] := by
        rw [word, if_neg letter, if_neg (mt isFigure_iff.mpr figure)]
      rw [whole, Token.ofWord, if_neg letter, if_neg (mt isFigure_iff.mpr figure)]
      exact .symbol rfl (Bool.eq_false_iff.mpr letter) figure blank sharp

variable {file : String} {before gap : List Char} {ts : List Token}

/-- In front of a piece that the rule takes a gap ends. -/
theorem Munch.exists_layout {place : Location} {t : Token} (h : Munch place w rest t)
    (between : IsGap false gap) :
    ∃ c cs, w ++ rest = c :: cs ∧ layout false (gap ++ (w ++ rest)) = (gap, c :: cs) := by
  obtain ⟨c, more, rfl, stays⟩ := h.start
  refine ⟨c, more ++ rest, rfl, ?_⟩
  rw [layout_gap between, List.cons_append, layout, stays]
  simp

theorem munches_tokensFrom (file : String) (before cs : List Char) :
    Munches file before cs (tokensFrom file before cs) := by
  fun_induction tokensFrom file before cs with
  | case1 before cs gap found => exact .done (isGap_of_layout_nil found)
  | case2 before cs gap c rest found _ ih =>
    rw [← append_of_layout found]
    conv => arg 3; rw [← word_append (c :: rest)]
    exact .token (isGap_of_layout_cons found) (munch_word (skipped_of_layout found) _) ih

/-- **The rule cuts a text in one way only**, which is into its tokens. -/
theorem munches_iff : Munches file before cs ts ↔ ts = tokensFrom file before cs := by
  refine ⟨fun h => ?_, fun h => h ▸ munches_tokensFrom file before cs⟩
  induction h with
  | done gap => rw [tokensFrom_nil (layout_of_isGap gap)]
  | @token before gap w rest t ts between munch _ ih =>
    obtain ⟨c, cs, text, found⟩ := munch.exists_layout between
    rw [text] at found ⊢
    have whole := munch.word_eq
    rw [text] at whole
    have behind : (c :: cs).drop w.length = rest := by rw [← text, List.drop_left]
    rw [tokensFrom_cons found, whole, behind, ← munch.eq_ofWord, ih]

/-! ### Digits and points -/

/-- A run of digits and points in pieces, cut in front of every point but the first. -/
structure IsPointCut (run first : List Char) (others : List (List Char)) : Prop where
  whole : first ++ others.flatten = run
  some : first ≠ []
  once : first.count '.' ≤ 1
  later : ∀ w ∈ others, ∃ digits, w = '.' :: digits ∧ '.' ∉ digits
  count : others.length + 1 = max 1 (run.count '.')

theorem IsPointCut.single (numeral : IsNumeral w) : IsPointCut w w [] :=
  ⟨List.append_nil _, numeral.some, numeral.points, List.forall_mem_nil _,
    (max_eq_left numeral.points).symm⟩

theorem IsPointCut.cons {run first : List Char} {others : List (List Char)}
    (h : IsPointCut run first others) (start : run.head? = Option.some '.') (one : w.count '.' = 1) :
    IsPointCut (w ++ run) w (first :: others) := by
  obtain ⟨digits, whole⟩ : ∃ digits, first = '.' :: digits := by
    obtain ⟨c, digits, whole⟩ := List.exists_cons_of_ne_nil h.some
    rw [← h.whole, whole, List.cons_append, List.head?_cons] at start
    exact ⟨digits, by rw [whole, Option.some.inj start]⟩
  have points : 1 ≤ run.count '.' := by
    rw [← h.whole, whole, List.cons_append, List.count_cons_self]
    exact Nat.le_add_left _ _
  have once := h.once
  rw [whole, List.count_cons_self] at once
  refine ⟨by rw [List.flatten_cons, h.whole], ?_, one.le, ?_, ?_⟩
  · rintro rfl
    cases one
  · exact List.forall_mem_cons.mpr ⟨⟨digits, whole, List.count_eq_zero.mp (by omega)⟩, h.later⟩
  · have count := h.count
    rw [max_eq_right points] at count
    rw [List.length_cons, List.count_append, one, count, Nat.add_comm, max_eq_right]
    exact Nat.le_add_right _ _

theorem IsGap.not_isFigure {last : Bool} {gap : List Char} (h : IsGap last gap) :
    ∀ c ∈ gap.head?, ¬IsFigure c := by
  have sharp : ¬IsFigure '#' := by simp [IsFigure]
  cases h with
  | nil => exact nofun
  | blank blank _ =>
    rintro _ ⟨⟩ figure
    rw [(skipped_eq_none_iff.mp (skipped_of_start (figure.imp_left isAlphanum_of_isDigit))).1] at blank
    cases blank
  | comment _ _ _ | unfinished _ _ =>
    rintro _ ⟨⟩
    exact sharp

/-- A piece that starts with a digit or a point is a numeral. -/
theorem Munch.isLongest_numeral {place : Location} {t : Token} (h : Munch place w rest t)
    (start : ∀ c ∈ w.head?, IsFigure c) : IsLongest IsNumeral w rest := by
  cases h with
  | keyword long _ | identifier long _ =>
    obtain ⟨c, more, rfl, letter⟩ := long.name_start
    cases (start c rfl).isAlpha.symm.trans letter
  | whole long _ | decimal long _ _ | malformed long _ => exact long
  | @symbol c single _ figure _ _ =>
    subst single
    exact absurd (start c rfl) figure

theorem Munch.lexeme {place : Location} {t : Token} (h : Munch place w rest t) :
    t.lexeme = String.ofList w := by
  rw [h.eq_ofWord, Token.lexeme_ofWord]

/-- Only a point alone is no number. -/
theorem Munch.malformed_iff {place : Location} {t : Token} (h : Munch place w rest t) :
    t.kind = .malformed ↔ t.lexeme = "." := by
  have point : t.lexeme = "." ↔ w = ['.'] := by
    rw [h.lexeme, ← String.ofList_inj]
  rw [point]
  cases h with
  | keyword long _ | identifier long _ =>
    refine iff_of_false nofun fun same => ?_
    obtain ⟨c, more, first, letter⟩ := long.name_start
    obtain ⟨rfl, -⟩ := List.cons.inj (first.symm.trans same)
    cases letter
  | whole _ none => exact iff_of_false nofun fun same => none (same ▸ List.mem_cons_self)
  | decimal _ _ more => exact iff_of_false nofun more
  | malformed _ same => exact iff_of_true rfl same
  | symbol single _ figure _ _ =>
    refine iff_of_false nofun fun same => ?_
    obtain ⟨rfl, -⟩ := List.cons.inj (single.symm.trans same)
    exact figure (.inr rfl)

/-- What ends a numeral in front of a digit or a point is a second point. -/
theorem IsLongest.second_point (h : IsLongest IsNumeral w (c :: rest)) (figure : IsFigure c) :
    c = '.' ∧ w.count '.' = 1 := by
  have longer : ¬IsNumeral (w ++ [c]) := by
    intro numeral
    have le := h.longest (w ++ [c]) (by simp) numeral
    rw [List.length_append] at le
    exact Nat.not_succ_le_self _ le
  have points : ¬(w ++ [c]).count '.' ≤ 1 := fun points => longer
    ⟨by simp, List.forall_mem_append.mpr ⟨h.fits.figures, List.forall_mem_singleton.mpr figure⟩,
      points⟩
  have one := h.fits.points
  rw [List.count_append, List.count_singleton] at points
  split at points
  · rename_i same
    exact ⟨eq_of_beq same, by omega⟩
  · omega

theorem isFigure_of_mem_head? {run : List Char} (some : run ≠ []) (figures : ∀ c ∈ run, IsFigure c)
    (rest : List Char) : ∀ c ∈ (run ++ rest).head?, IsFigure c := by
  obtain ⟨c, more, rfl⟩ := List.exists_cons_of_ne_nil some
  rintro _ ⟨⟩
  exact figures c List.mem_cons_self

/-- Digits and points in front of a text are all in the run there. -/
theorem exists_of_append_run {left run : List Char} (text : w ++ left = run ++ rest)
    (figures : ∀ c ∈ w, IsFigure c) (ends : ∀ c ∈ rest.head?, ¬IsFigure c) :
    ∃ more, run = w ++ more ∧ left = more ++ rest := by
  rcases List.append_eq_append_iff.mp text with ⟨more, whole, behind⟩ | ⟨more, whole, behind⟩
  · exact ⟨more, whole, behind⟩
  · cases more with
    | nil => exact ⟨[], by simpa using whole.symm, by simpa using behind.symm⟩
    | cons d more =>
      refine absurd (figures d ?_) (ends d (by rw [behind]; rfl))
      rw [whole]
      exact List.mem_append_right _ List.mem_cons_self

/-- A run of digits and points makes as many tokens as it has points, and one if it has none. It is
cut in front of every point but the first, and the text goes on behind it. -/
theorem Munches.run {run : List Char} (h : Munches file before cs ts) (text : cs = run ++ rest)
    (some : run ≠ []) (figures : ∀ c ∈ run, IsFigure c) (ends : ∀ c ∈ rest.head?, ¬IsFigure c) :
    ∃ first others taken later, IsPointCut run first others ∧ ts = taken ++ later ∧
      taken.map (·.lexeme) = (first :: others).map String.ofList ∧
      Munches file (before ++ run) rest later := by
  induction h generalizing run with
  | @done before gap none =>
    have head := isFigure_of_mem_head? some figures rest
    obtain ⟨c, more, rfl⟩ := List.exists_cons_of_ne_nil some
    exact absurd (head c rfl) (none.not_isFigure c (by rw [text]; rfl))
  | @token before gap w left t ts between munch tail ih =>
    have head := isFigure_of_mem_head? some figures rest
    -- neither a gap nor a word reaches over the border of a run
    have none : gap = [] := by
      cases gap with
      | nil => rfl
      | cons d gap => exact absurd (head d (by rw [← text]; rfl)) (between.not_isFigure d rfl)
    subst none
    rw [List.nil_append] at text
    have long : IsLongest IsNumeral w left := by
      obtain ⟨c, more, rfl, -⟩ := munch.start
      exact munch.isLongest_numeral fun d hd => head d (by rw [← text]; exact hd)
    obtain ⟨others, whole, behind⟩ := exists_of_append_run text long.fits.figures ends
    subst whole behind
    rw [List.append_nil] at tail ih
    cases others with
    | nil =>
      rw [List.append_nil, List.nil_append] at *
      exact ⟨w, [], [t], ts, .single long.fits, rfl, by simp [munch.lexeme], tail⟩
    | cons d others =>
      obtain ⟨rfl, one⟩ := long.second_point (figures d (by simp))
      obtain ⟨first, others, taken, later, cut, rfl, same, tail⟩ := ih rfl (List.cons_ne_nil _ _)
        fun e he => figures e (List.mem_append_right _ he)
      refine ⟨w, first :: others, t :: taken, later, cut.cons rfl one, rfl, ?_, ?_⟩
      · rw [List.map_cons, same, munch.lexeme, List.map_cons (l := first :: others)]
      · rwa [← List.append_assoc]

/-- The rule goes on at a token as if the text started there. -/
theorem Munches.behind {t : Token} {front behind : List Token} {earlier tail : List Char}
    (h : Munches file before cs (front ++ t :: behind))
    (place : t.location = some (.behind file earlier)) (text : before ++ cs = earlier ++ tail) :
    Munches file earlier tail (t :: behind) := by
  generalize same : front ++ t :: behind = us at h
  induction h generalizing front with
  | done _ => simp at same
  | @token before gap w rest u us between munch later ih =>
    cases front with
    | nil =>
      obtain ⟨rfl, rfl⟩ := List.cons.inj same
      have there : Location.behind file (before ++ gap) = .behind file earlier := by
        rw [munch.eq_ofWord, Token.location_ofWord] at place
        exact Option.some.inj place
      have length : (before ++ gap).length = earlier.length := by
        have offset := congrArg Location.offset there
        simp only [Location.behind] at offset
        omega
      rw [← List.append_assoc] at text
      obtain ⟨rfl, rfl⟩ := List.append_inj text length
      have restart : Munches file (before ++ gap) ([] ++ (w ++ rest)) (t :: behind) :=
        .token .nil (by rwa [List.append_nil]) (by rwa [List.append_nil])
      exact restart
    | cons v front =>
      refine ih ?_ (List.cons.inj same).2
      rw [← text]
      simp

theorem Munches.malformed_iff (h : Munches file before cs ts) :
    ∀ t ∈ ts, t.kind = .malformed ↔ t.lexeme = "." := by
  induction h with
  | done _ => exact List.forall_mem_nil _
  | token _ munch _ ih => exact List.forall_mem_cons.mpr ⟨munch.malformed_iff, ih⟩

end

end

/-! ### Lexers -/

namespace Lexer

theorem faults_next {l m : Lexer} {t : Token} (h : l.next = (.ok t, m)) :
    m.faults.toList = l.faults.toList ++ [t].filterMap Token.fault? := by
  unfold next at h
  split at h
  · cases h
    cases fault : t.fault? <;> simp [fault]
  · cases h

theorem filterMap_fault? (ts : List Token) :
    ts.filterMap Token.fault? =
      (ts.filter (·.kind = .malformed)).map fun t => .malformed t.lexeme t.location := by
  induction ts with
  | nil => rfl
  | cons t ts ih =>
    by_cases malformed : t.kind = .malformed
    · have fault : t.fault? = some (.malformed t.lexeme t.location) := if_pos malformed
      simp [fault, malformed, ih]
    · have fault : t.fault? = none := if_neg malformed
      simp [fault, malformed, ih]

/-- A lexer has reported the malformed numerals among the tokens that it has given. -/
theorem faults_collect {earlier us : List Token} {l m : Lexer}
    (h : collect earlier l = (.ok us, m)) :
    ∃ given, us = earlier.reverse ++ given ∧
      m.faults.toList = l.faults.toList ++ given.filterMap Token.fault? := by
  fun_induction collect earlier l with
  | case1 => cases h
  | case2 earlier l t m next _ =>
    cases h
    exact ⟨[t], List.reverse_cons, faults_next next⟩
  | case3 earlier l t m next _ _ ih =>
    obtain ⟨given, rfl, faults⟩ := ih h
    refine ⟨[t] ++ given, by simp, ?_⟩
    rw [faults, faults_next next, List.filterMap_append, List.append_assoc]

theorem faults_rest {l m : Lexer} {ts : List Token} {p : Option Location} (fresh : l.faults = #[])
    (h : l.rest = (.ok (ts ++ [.finish p]), m)) :
    m.faults.toList =
      (ts.filter (·.kind = .malformed)).map fun t => .malformed t.lexeme t.location := by
  obtain ⟨given, same, faults⟩ := faults_collect h
  obtain rfl : ts ++ [.finish p] = given := same
  rw [faults, fresh, List.filterMap_append, filterMap_fault?]
  exact List.append_nil _

/-- **A lexer takes the longest words.** The tokens of a text are the only ones that the rule cuts
it into. A run of digits and points that a token starts is cut in front of every point but the
first. Only a point alone is no number, and for each one a fault is reported at its place. -/
theorem rest_munches (file text : String) (ascii : IsAscii text.toList) :
    ∃ ts m, (ofSource file (.ofString text)).rest =
        (.ok (ts ++ [.finish (some (.atEnd file text.toList))]), m) ∧
      (∀ us, Munches file [] text.toList us ↔ us = ts) ∧
      (∀ {front behind : List Token} {t : Token} {before run rest : List Char},
        ts = front ++ t :: behind → t.location = some (.behind file before) →
        text.toList = before ++ (run ++ rest) → run ≠ [] → (∀ c ∈ run, IsFigure c) →
        (∀ c ∈ rest.head?, ¬IsFigure c) →
        ∃ first others taken later, IsPointCut run first others ∧ t :: behind = taken ++ later ∧
          taken.map (·.lexeme) = (first :: others).map String.ofList ∧
          Munches file (before ++ run) rest later) ∧
      (∀ t ∈ ts, t.kind = .malformed ↔ t.lexeme = ".") ∧
      m.faults.toList =
        (ts.filter (·.kind = .malformed)).map (fun t => .malformed t.lexeme t.location) ∧
      ∀ fault ∈ m.faults, fault.code = "L003" := by
  obtain ⟨m, collected, -⟩ := collect_within (l := ofSource file (.ofString text))
    (Scanner.next_start ascii) ascii []
  have munches := munches_tokensFrom file [] text.toList
  have faults := faults_rest (p := some (.atEnd file text.toList)) rfl collected
  refine ⟨_, m, collected, fun us => munches_iff, ?_, munches.malformed_iff, faults, ?_⟩
  · intro front behind t before run rest parts place whole some figures ends
    rw [parts] at munches
    exact (munches.behind place whole).run rfl some figures ends
  · intro fault mem
    rw [← Array.mem_toList_iff, faults] at mem
    obtain ⟨t, -, rfl⟩ := List.mem_map.mp mem
    rfl

/-- Three points among digits make three tokens. -/
theorem rest_munches_of_points : IsAscii "1..2.".toList ∧
    ∃ ts m, (ofSource "<stdin>" (.ofString "1..2.")).rest =
        (.ok (ts ++ [.finish (some (.atEnd "<stdin>" "1..2.".toList))]), m) ∧ ts.length = 3 := by
  have ascii : IsAscii "1..2.".toList := by decide
  obtain ⟨ts, m, given, unique, cut, -⟩ := rest_munches "<stdin>" "1..2." ascii
  have start : layout false "1..2.".toList = ([], '1' :: ['.', '.', '2', '.']) := by decide
  have parts := (unique _).mp (munches_tokensFrom "<stdin>" [] "1..2.".toList)
  rw [tokensFrom_cons start] at parts
  have figures : ∀ c ∈ "1..2.".toList, IsFigure c := by
    simp [IsFigure]
  have text : "1..2.".toList = [] ++ ("1..2.".toList ++ []) := (List.append_nil _).symm
  obtain ⟨first, others, taken, later, pieces, whole, same, behind⟩ :=
    cut (parts.symm.trans (List.nil_append _).symm) (Token.location_ofWord _ _) text (by decide)
      figures nofun
  refine ⟨ascii, ts, m, given, ?_⟩
  have last : later = [] := by
    rw [munches_iff.mp behind, tokensFrom_nil rfl]
  have count := congrArg List.length same
  have three : List.count '.' "1..2.".toList = 3 := by decide
  have points := pieces.count
  rw [List.length_map, List.length_map, List.length_cons, points, three] at count
  rw [← parts, whole, last, List.append_nil, count]
  rfl

end Lexer

end Reckoner

import Mathlib.Data.List.Basic
import Mathlib.Data.List.TakeWhile
import Reckoner.Proofs.Token.Characters
import Reckoner.Token.Lexer

/-! How a text is cut.

A scanner has read one character more than it has cut, and its counters are those of that
character, with a line feed counted only when the next character is read. So what it does
is told by the characters before the pending one and by the rest (`Scanner.within`): the
blanks and comments that it skips, the word behind them (`word`), and the token of that word
at its place (`Token.ofWord`) are functions of the text (`Scanner.next_within_cons`). -/
namespace Reckoner

/-! ### Places -/

/-- The index of the last line feed of a text, and -1 if there is none. -/
def lastBreak (cs : List Char) : Int :=
  cs.length - 1 - cs.reverse.idxOf '\n'

theorem lastBreak_of_not_mem {cs : List Char} (h : '\n' ∉ cs) : lastBreak cs = -1 := by
  have none : cs.reverse.idxOf '\n' = cs.reverse.length := List.idxOf_eq_length (by simpa using h)
  rw [lastBreak, none, List.length_reverse]
  omega

theorem lastBreak_append {before behind : List Char} (h : '\n' ∉ behind) :
    lastBreak (before ++ '\n' :: behind) = before.length := by
  have found : (before ++ '\n' :: behind).reverse.idxOf '\n' = behind.length := by
    rw [List.reverse_append, List.reverse_cons, List.append_assoc,
      List.idxOf_append_of_notMem (by simpa using h)]
    simp
  rw [lastBreak, found]
  simp only [List.length_append, List.length_cons]
  omega

/-- The place of a character, by the text before it. -/
def Location.behind (file : String) (before : List Char) : Location :=
  ⟨file, 1 + before.count '\n', before.length - lastBreak before, before.length + 1⟩

/-- The place of the end of a text, which is that of its last character. -/
def Location.atEnd (file : String) (text : List Char) : Location :=
  if text = [] then ⟨file, 1, 1, 0⟩ else .behind file text.dropLast

/-! ### Words -/

/-- The blanks and comments that a text starts with, and the rest of it. -/
def layout (comment : Bool) : List Char → List Char × List Char
  | [] => ([], [])
  | c :: cs =>
    match Scanner.skipped comment c with
    | none => ([], c :: cs)
    | some inside => ((c :: (layout inside cs).1), (layout inside cs).2)

theorem layout_append (comment : Bool) (cs : List Char) :
    (layout comment cs).1 ++ (layout comment cs).2 = cs := by
  induction cs generalizing comment with
  | nil => rfl
  | cons c cs ih =>
    unfold layout
    split
    · rfl
    · rw [List.cons_append, ih]

/-- The digits that a text starts with, and those behind a point that follows them. -/
def figures (cs : List Char) : List Char :=
  cs.takeWhile Char.isDigit ++
    match cs.dropWhile Char.isDigit with
    | '.' :: rest => '.' :: rest.takeWhile Char.isDigit
    | _ => []

/-- The first word of a text that starts with one. -/
def word : List Char → List Char
  | [] => []
  | c :: cs =>
    if c.isAlpha then (c :: cs).takeWhile Char.isAlphanum
    else if c.isDigit || c = '.' then figures (c :: cs)
    else [c]

/-- What is left behind a part that a text starts with. -/
theorem drop_of_append {part left rest : List Char} (h : part ++ left = rest) :
    rest.drop part.length = left := by
  rw [← h, List.drop_left]

theorem figures_of_point {cs more : List Char} (h : cs.dropWhile Char.isDigit = '.' :: more) :
    figures cs = cs.takeWhile Char.isDigit ++ '.' :: more.takeWhile Char.isDigit := by
  simp only [figures, h]

theorem figures_of_no_point {cs : List Char} (h : (cs.dropWhile Char.isDigit).head? ≠ some '.') :
    figures cs = cs.takeWhile Char.isDigit := by
  rw [figures]
  split
  · rename_i point
    rw [point] at h
    exact absurd rfl h
  · exact List.append_nil _

theorem figures_append (cs : List Char) : figures cs ++ cs.drop (figures cs).length = cs := by
  have parts : cs.takeWhile Char.isDigit ++ cs.dropWhile Char.isDigit = cs :=
    List.takeWhile_append_dropWhile
  by_cases point : (cs.dropWhile Char.isDigit).head? = some '.'
  · obtain ⟨more, behind⟩ := List.head?_eq_some_iff.mp point
    have whole : figures cs ++ more.dropWhile Char.isDigit = cs := by
      rw [figures_of_point behind, List.append_assoc, List.cons_append,
        List.takeWhile_append_dropWhile, ← behind, parts]
    rw [drop_of_append whole, whole]
  · rw [figures_of_no_point point, drop_of_append parts, parts]

theorem figures_ne_nil {c : Char} {rest : List Char} (start : (c.isDigit || c = '.') = true) :
    figures (c :: rest) ≠ [] := by
  by_cases digit : c.isDigit = true
  · rw [figures, List.takeWhile_cons_of_pos digit]
    exact List.cons_ne_nil _ _
  · rw [Bool.eq_false_iff.mpr digit, Bool.false_or, decide_eq_true_eq] at start
    subst start
    rw [figures_of_point (List.dropWhile_cons_of_neg (by decide))]
    simp

/-- A word is the beginning of its text. -/
theorem word_append (cs : List Char) : word cs ++ cs.drop (word cs).length = cs := by
  cases cs with
  | nil => rfl
  | cons c rest =>
    simp only [word]
    split
    · rw [drop_of_append List.takeWhile_append_dropWhile, List.takeWhile_append_dropWhile]
    · split
      · exact figures_append _
      · rfl

theorem word_ne_nil (c : Char) (rest : List Char) : word (c :: rest) ≠ [] := by
  simp only [word]
  split
  · rename_i letter
    rw [List.takeWhile_cons_of_pos (isAlphanum_of_isAlpha letter)]
    exact List.cons_ne_nil _ _
  · split
    · exact figures_ne_nil ‹_›
    · exact List.cons_ne_nil _ _

/-- A word starts with the first character of its text. -/
theorem exists_word_cons (c : Char) (rest : List Char) : ∃ more, word (c :: rest) = c :: more := by
  obtain ⟨d, more, whole⟩ := List.exists_cons_of_ne_nil (word_ne_nil c rest)
  have parts := word_append (c :: rest)
  rw [whole, List.cons_append] at parts
  exact ⟨more, by rw [whole, (List.cons.inj parts).1]⟩

/-- The token of a numeral. -/
def Token.ofFigures (w : List Char) (place : Location) : Token :=
  let whole := w.takeWhile Char.isDigit
  let digits := (w.dropWhile Char.isDigit).drop 1
  if whole.isEmpty && digits.isEmpty then
    { kind := .malformed, lexeme := String.ofList w, location := place }
  else
    { kind := .number, lexeme := String.ofList w, location := place
      value := some (.number (Decimal.numeral whole digits)) }

/-- The token of a word at its place. -/
def Token.ofWord (w : List Char) (place : Location) : Token :=
  match w with
  | [] => .finish place
  | c :: _ =>
    if c.isAlpha then
      match Keyword.ofSpelling? (String.ofList w) with
      | some k => { kind := .keyword k, lexeme := String.ofList w, location := place }
      | none =>
        { kind := .identifier, lexeme := String.ofList w, location := place
          value := some (.text (String.ofList w)) }
    else if c.isDigit || c = '.' then .ofFigures w place
    else
      { kind := .symbol, lexeme := String.ofList w, location := place
        value := some (.text (String.ofList w)) }

/-- A word makes a token, not the end of the input. -/
theorem Token.kind_ofWord {w : List Char} (ne : w ≠ []) (place : Location) :
    (ofWord w place).kind ≠ .endOfInput := by
  obtain ⟨c, cs, rfl⟩ := List.exists_cons_of_ne_nil ne
  unfold ofWord ofFigures
  simp only
  split
  · split <;> exact nofun
  · split
    · split <;> exact nofun
    · exact nofun

/-- The place of a word makes no other difference to its token. -/
theorem Token.ofWord_eq (w : List Char) (place other : Location) :
    ofWord w place = { ofWord w other with location := some place } := by
  unfold ofWord ofFigures
  split
  · rfl
  · split
    · split <;> rfl
    · split
      · dsimp only
        split <;> rfl
      · rfl

@[simp]
theorem Token.location_ofWord (w : List Char) (place : Location) :
    (ofWord w place).location = some place :=
  congrArg Token.location (ofWord_eq w place place)

@[simp]
theorem Token.lexeme_ofWord (w : List Char) (place : Location) :
    (ofWord w place).lexeme = String.ofList w := by
  unfold ofWord ofFigures
  split
  · rfl
  · split
    · split <;> rfl
    · split
      · dsimp only
        split <;> rfl
      · rfl

theorem append_of_layout {comment : Bool} {cs gap rest : List Char}
    (h : layout comment cs = (gap, rest)) : gap ++ rest = cs := by
  have parts := layout_append comment cs
  rwa [h] at parts

/-- Behind a word there is less of a text. -/
theorem length_drop_word_lt {cs gap rest : List Char} {c : Char}
    (h : layout false cs = (gap, c :: rest)) :
    ((c :: rest).drop (word (c :: rest)).length).length < cs.length := by
  have whole := congrArg List.length (append_of_layout h)
  have some := List.length_pos_iff.mpr (word_ne_nil c rest)
  simp only [List.length_append, List.length_drop, List.length_cons] at *
  omega

theorem append_behind_word {cs gap rest : List Char} {c : Char}
    (h : layout false cs = (gap, c :: rest)) (before : List Char) :
    before ++ gap ++ word (c :: rest) ++ (c :: rest).drop (word (c :: rest)).length = before ++ cs := by
  rw [List.append_assoc, word_append, List.append_assoc, append_of_layout h]

/-- The tokens of the rest of a text, without the end of the input. -/
def tokensFrom (file : String) (before cs : List Char) : List Token :=
  match h : layout false cs with
  | (_, []) => []
  | (gap, c :: rest) =>
    have := length_drop_word_lt h
    .ofWord (word (c :: rest)) (.behind file (before ++ gap)) ::
      tokensFrom file (before ++ gap ++ word (c :: rest))
        ((c :: rest).drop (word (c :: rest)).length)
termination_by cs.length
decreasing_by exact this

theorem tokensFrom_nil {file : String} {before cs gap : List Char} (h : layout false cs = (gap, [])) :
    tokensFrom file before cs = [] := by
  rw [tokensFrom]
  split
  · rfl
  · rename_i other
    cases h.symm.trans other

theorem tokensFrom_cons {file : String} {before cs gap rest : List Char} {c : Char}
    (h : layout false cs = (gap, c :: rest)) :
    tokensFrom file before cs = .ofWord (word (c :: rest)) (.behind file (before ++ gap)) ::
      tokensFrom file (before ++ gap ++ word (c :: rest))
        ((c :: rest).drop (word (c :: rest)).length) := by
  conv => lhs; rw [tokensFrom]
  split
  · rename_i other
    cases h.symm.trans other
  · rename_i other
    cases h.symm.trans other
    rfl

theorem kind_of_mem_tokensFrom {file : String} {before cs : List Char} {t : Token}
    (h : t ∈ tokensFrom file before cs) : t.kind ≠ .endOfInput := by
  fun_induction tokensFrom file before cs with
  | case1 => cases h
  | case2 before cs gap c rest found _ ih =>
    rcases List.mem_cons.mp h with rfl | later
    · exact Token.kind_ofWord (word_ne_nil c rest) _
    · exact ih later

/-- Characters that a source may have. -/
def IsAscii (cs : List Char) : Prop :=
  ∀ c ∈ cs, c.toNat < 128

instance (cs : List Char) : Decidable (IsAscii cs) :=
  List.decidableBAll (fun c : Char => c.toNat < 128) cs

theorem IsAscii.behind_word {cs gap rest : List Char} {c : Char} (ascii : IsAscii cs)
    (h : layout false cs = (gap, c :: rest)) :
    IsAscii ((c :: rest).drop (word (c :: rest)).length) := by
  intro d hd
  refine ascii d ?_
  rw [← append_of_layout h]
  exact List.mem_append_right _ (List.mem_of_mem_drop hd)

namespace Scanner

/-! ### Scanners in a text -/

/-- A scanner that has read some characters. -/
def having (file : String) (passed rest : List Char) (pending : Option Char) : Scanner where
  file
  source := .ofList rest
  line := 1 + passed.dropLast.count '\n'
  column := if passed = [] then 0 else passed.dropLast.reverse.idxOf '\n' + 1
  offset := passed.length
  afterBreak := passed.getLast? = some '\n'
  pending

/-- The scanner in front of the rest of a text. -/
def within (file : String) (before rest : List Char) : Scanner :=
  having file (before ++ rest.take 1) rest.tail rest.head?

section
variable {file : String} {before passed rest : List Char} {c : Char} {pending : Option Char}

theorem read_having (ascii : c.toNat < 128) :
    read (having file passed (c :: rest) pending) =
      .ok () (having file (passed ++ [c]) rest (some c)) := by
  rcases passed.eq_nil_or_concat' with rfl | ⟨front, d, rfl⟩
  · simp [read, having, Source.ofList, passing, ascii]
  · by_cases h : d = '\n'
    · simp [read, having, Source.ofList, passing, ascii, h, Nat.add_assoc]
    · simp [read, having, Source.ofList, passing, ascii, h]

theorem read_within (ascii : IsAscii (c :: rest)) :
    read (within file before (c :: rest)) = .ok () (within file (before ++ [c]) rest) := by
  cases rest with
  | nil => simp [within, read, having, Source.ofList]
  | cons d rest =>
    have next := ascii d (by simp)
    simp only [within, List.take_succ_cons, List.take_zero, List.tail_cons, List.head?_cons]
    exact read_having next

theorem pending_within : (within file before rest).pending = rest.head? := rfl

theorem here_within_cons : (within file before (c :: rest)).here = .behind file before := by
  simp only [here, within, having, Location.behind, lastBreak, List.take_succ_cons, List.take_zero,
    List.dropLast_concat, List.length_append, List.length_singleton]
  simp
  omega

theorem here_within_nil : (within file before []).here = .atEnd file before := by
  rcases before.eq_nil_or_concat' with rfl | ⟨front, d, rfl⟩
  · rfl
  · simp [here, within, having, Location.atEnd, Location.behind, lastBreak]
    omega

theorem skip_within {comment : Bool} (ascii : IsAscii rest) :
    skip comment (within file before rest) =
      .ok () (within file (before ++ (layout comment rest).1) (layout comment rest).2) := by
  induction rest generalizing comment before with
  | nil =>
    rw [skip]
    split
    · simp [layout]
    · rename_i pending
      cases pending
  | cons c cs ih =>
    rw [skip]
    split
    · rename_i pending
      cases pending
    · rename_i d pending
      cases pending
      split
      · rename_i stays
        simp [layout, stays]
      · rename_i inside goes
        split
        · rename_i t moved
          rw [read_within ascii] at moved
          cases moved
          rw [ih fun d hd => ascii d (List.mem_cons_of_mem _ hd)]
          simp [layout, goes]
        · rename_i failed
          rw [read_within ascii] at failed
          cases failed

theorem collect_within {p : Char → Bool} {cs : List Char} (ascii : IsAscii rest) :
    collect p cs (within file before rest) =
      .ok (cs.reverse ++ rest.takeWhile p)
        (within file (before ++ rest.takeWhile p) (rest.dropWhile p)) := by
  induction rest generalizing cs before with
  | nil =>
    rw [collect]
    split
    · simp
    · rename_i pending
      cases pending
  | cons c rest ih =>
    rw [collect]
    split
    · rename_i pending
      cases pending
    · rename_i d pending
      cases pending
      split
      · rename_i fits
        split
        · rename_i t moved
          rw [read_within ascii] at moved
          cases moved
          rw [ih fun d hd => ascii d (List.mem_cons_of_mem _ hd)]
          simp [fits]
        · rename_i failed
          rw [read_within ascii] at failed
          cases failed
      · rename_i stays
        simp [stays]

theorem run_within {p : Char → Bool} (ascii : IsAscii rest) :
    run p (within file before rest) =
      .ok (rest.takeWhile p) (within file (before ++ rest.takeWhile p) (rest.dropWhile p)) :=
  collect_within ascii

theorem name_within (ascii : IsAscii (c :: rest)) (letter : c.isAlpha = true) :
    name (.behind file before) (within file before (c :: rest)) =
      .ok (.ofWord (word (c :: rest)) (.behind file before))
        (within file (before ++ word (c :: rest))
          ((c :: rest).drop (word (c :: rest)).length)) := by
  have fits := isAlphanum_of_isAlpha letter
  have whole : word (c :: rest) = c :: rest.takeWhile Char.isAlphanum := by
    rw [word, if_pos letter, List.takeWhile_cons_of_pos fits]
  have left : (c :: rest).drop (word (c :: rest)).length = (c :: rest).dropWhile Char.isAlphanum := by
    refine drop_of_append ?_
    rw [word, if_pos letter, List.takeWhile_append_dropWhile]
  rw [left]
  simp only [name, bind, EStateM.bind, run_within ascii]
  rw [List.takeWhile_cons_of_pos fits, whole]
  simp only [Token.ofWord, letter, if_true]
  cases Token.Keyword.ofSpelling? (String.ofList (c :: rest.takeWhile Char.isAlphanum)) <;> rfl

/-- A numeral with a point. -/
theorem ofFigures_point {whole digits : List Char} (fits : ∀ d ∈ whole, d.isDigit = true)
    (place : Location) :
    Token.ofFigures (whole ++ '.' :: digits) place =
      if whole.isEmpty && digits.isEmpty then
        { kind := .malformed, lexeme := String.ofList (whole ++ '.' :: digits), location := place }
      else
        { kind := .number, lexeme := String.ofList (whole ++ '.' :: digits), location := place
          value := some (.number (Decimal.numeral whole digits)) } := by
  have first : (whole ++ '.' :: digits).takeWhile Char.isDigit = whole := by
    rw [List.takeWhile_append_of_pos fits, List.takeWhile_cons_of_neg (by decide), List.append_nil]
  have last : (whole ++ '.' :: digits).dropWhile Char.isDigit = '.' :: digits := by
    rw [List.dropWhile_append_of_pos fits, List.dropWhile_cons_of_neg (by decide)]
  rw [Token.ofFigures, first, last]
  rfl

/-- A numeral without a point. -/
theorem ofFigures_whole {whole : List Char} (fits : ∀ d ∈ whole, d.isDigit = true) (ne : whole ≠ [])
    (place : Location) :
    Token.ofFigures whole place =
      { kind := .number, lexeme := String.ofList whole, location := place
        value := some (.number (Decimal.numeral whole [])) } := by
  have first : whole.takeWhile Char.isDigit = whole := List.takeWhile_eq_self_iff.mpr fits
  have last : whole.dropWhile Char.isDigit = [] := List.dropWhile_eq_nil_iff.mpr fits
  rw [Token.ofFigures, first, last]
  simp [ne]

theorem fraction_within {whole : List Char} (ascii : IsAscii ('.' :: rest))
    (fits : ∀ d ∈ whole, d.isDigit = true) (place : Location) :
    fraction whole place (within file before ('.' :: rest)) =
      .ok (.ofFigures (whole ++ '.' :: rest.takeWhile Char.isDigit) place)
        (within file (before ++ '.' :: rest.takeWhile Char.isDigit)
          (rest.dropWhile Char.isDigit)) := by
  have later : IsAscii rest := fun d hd => ascii d (List.mem_cons_of_mem _ hd)
  simp only [fraction, bind, EStateM.bind, read_within ascii, run_within later]
  rw [ofFigures_point fits, List.append_assoc, List.singleton_append]
  split <;> rfl

theorem numeral_within (ascii : IsAscii (c :: rest)) (start : (c.isDigit || c = '.') = true)
    (place : Location) :
    numeral place (within file before (c :: rest)) =
      .ok (.ofFigures (figures (c :: rest)) place)
        (within file (before ++ figures (c :: rest))
          ((c :: rest).drop (figures (c :: rest)).length)) := by
  have fits : ∀ d ∈ (c :: rest).takeWhile Char.isDigit, d.isDigit = true :=
    fun d hd => List.mem_takeWhile_imp hd
  have parts : (c :: rest).takeWhile Char.isDigit ++ (c :: rest).dropWhile Char.isDigit = c :: rest :=
    List.takeWhile_append_dropWhile
  simp only [numeral, bind, EStateM.bind, run_within ascii, afterDigits]
  by_cases point : ((c :: rest).dropWhile Char.isDigit).head? = some '.'
  · obtain ⟨more, behind⟩ := List.head?_eq_some_iff.mp point
    have later : IsAscii ('.' :: more) := fun d hd => ascii d (by
      rw [← parts, behind]
      exact List.mem_append_right _ hd)
    have whole : figures (c :: rest) ++ more.dropWhile Char.isDigit = c :: rest := by
      rw [figures_of_point behind, List.append_assoc, List.cons_append,
        List.takeWhile_append_dropWhile, ← behind, parts]
    rw [if_pos (pending_within.trans point), drop_of_append whole, behind,
      fraction_within later fits, figures_of_point behind, List.append_assoc]
  · have digit : c.isDigit = true := by
      by_contra none
      rw [List.dropWhile_cons_of_neg none] at point
      simp only [Bool.not_eq_true] at none
      rw [none, Bool.false_or, decide_eq_true_eq] at start
      exact point (by rw [start]; rfl)
    have some : (c :: rest).takeWhile Char.isDigit ≠ [] := by
      rw [List.takeWhile_cons_of_pos digit]
      exact List.cons_ne_nil _ _
    rw [if_neg fun pending => point (pending_within.symm.trans pending), figures_of_no_point point,
      drop_of_append parts, ofFigures_whole fits some]

/-- The token at a character is that of the word there. -/
theorem token_within (ascii : IsAscii (c :: rest)) :
    token (within file before (c :: rest)) =
      .ok (.ofWord (word (c :: rest)) (.behind file before))
        (within file (before ++ word (c :: rest))
          ((c :: rest).drop (word (c :: rest)).length)) := by
  unfold token
  simp only [pending_within, List.head?_cons, here_within_cons]
  split
  · rename_i letter
    exact name_within ascii letter
  · rename_i letter
    split
    · rename_i start
      have whole : word (c :: rest) = figures (c :: rest) := by
        rw [word, if_neg letter, if_pos start]
      obtain ⟨more, head⟩ := exists_word_cons c rest
      rw [numeral_within ascii start, ← whole]
      rw [head, Token.ofWord, if_neg letter, if_pos start]
    · rename_i start
      have whole : word (c :: rest) = [c] := by
        rw [word, if_neg letter, if_neg start]
      simp only [symbol, bind, EStateM.bind, read_within ascii]
      rw [whole, Token.ofWord, if_neg letter, if_neg start]
      rfl

/-- The end of the input is scanned behind the last blanks and comments. -/
theorem next_within_nil {gap : List Char} (ascii : IsAscii rest) (h : layout false rest = (gap, [])) :
    next (within file before rest) =
      .ok (.finish (some (.atEnd file (before ++ gap)))) (within file (before ++ gap) []) := by
  simp only [next, bind, EStateM.bind, skip_within ascii, h]
  rw [token, here_within_nil]
  rfl

/-- **One token is scanned at a time**, behind the blanks and comments in front of it. -/
theorem next_within_cons {gap cs : List Char} (ascii : IsAscii rest)
    (h : layout false rest = (gap, c :: cs)) :
    next (within file before rest) =
      .ok (.ofWord (word (c :: cs)) (.behind file (before ++ gap)))
        (within file (before ++ gap ++ word (c :: cs))
          ((c :: cs).drop (word (c :: cs)).length)) := by
  have later : IsAscii (c :: cs) := fun d hd => ascii d (by
    rw [← layout_append false rest, h]
    exact List.mem_append_right _ hd)
  simp only [next, bind, EStateM.bind, skip_within ascii, h]
  exact token_within later

/-- A scanner starts by reading the first character, as if that came behind a blank. -/
theorem next_start {cs : List Char} (ascii : IsAscii cs) :
    next { file, source := .ofList cs } = next (within file [] cs) := by
  have start : ({ file, source := .ofList cs } : Scanner) = having file [] cs (some ' ') := by
    simp [having]
  have first : read { file, source := .ofList cs } = .ok () (within file [] cs) := by
    cases cs with
    | nil => rfl
    | cons c cs =>
      rw [start]
      exact read_having (ascii c List.mem_cons_self)
  have skipped : skip false { file, source := .ofList cs } = skip false (within file [] cs) := by
    rw [skip]
    split
    · rename_i pending
      cases pending
    · rename_i c pending
      cases pending
      split
      · rename_i stays
        cases stays
      · rename_i inside goes
        cases goes
        split
        · rename_i t moved
          cases moved.symm.trans first
          rfl
        · rename_i failed
          cases failed.symm.trans first
  simp only [next, bind, EStateM.bind, skipped]

end

end Scanner

end Reckoner

import Reckoner.Proofs.Expr.Written
import Reckoner.Proofs.Session.Separators

/-! Printing and parsing.

The text of a construct has parentheses around every operation and every conditional. So it is
read as tokens that derive a primary, under any table that knows the operators
(`exists_tokens`), and precedences have no say. A construct that was parsed from a source can be
printed and parsed again, with another table, and nothing but its places is different
(`statement_text`). -/
namespace Reckoner

/-- A number whose text is in plain decimal notation and is read as that number. -/
inductive Decimal.ReadsBack (x : Float) : Prop where
  | whole {ds} : significant x = String.ofList ds → ds ≠ [] → (∀ d ∈ ds, d.isDigit = true) →
    numeral ds [] = x → ReadsBack x
  | point {ds fs} : significant x = String.ofList (ds ++ '.' :: fs) → ds ≠ [] →
    (∀ d ∈ ds, d.isDigit = true) → (∀ d ∈ fs, d.isDigit = true) → numeral ds fs = x → ReadsBack x

/-! ### Texts and their tokens -/

theorem stops_blank (rest : List Char) : Stops (' ' :: rest) := by
  rintro _ ⟨⟩
  decide

theorem tokensOf_blank (rest : List Char) : tokensOf (' ' :: rest) = tokensOf rest :=
  tokensOf_gap (.blank rfl .nil : IsGap false [' ']) rest

/-- The symbols that the grammar knows. -/
def IsBracket (c : Char) : Prop :=
  c = '(' ∨ c = ')' ∨ c = ','

theorem IsBracket.stops {c : Char} (h : IsBracket c) (rest : List Char) : Stops (c :: rest) := by
  rcases h with rfl | rfl | rfl <;> rintro _ ⟨⟩ <;> decide

/-- They are tokens of their own, whatever follows them. -/
theorem IsBracket.tokensOf {c : Char} (h : IsBracket c) (rest : List Char) :
    tokensOf (c :: rest) = .ofSpelling [c] :: tokensOf rest := by
  have single : IsWord [c] ∧ word ([c] ++ rest) = [c] := by
    rcases h with rfl | rfl | rfl <;> exact ⟨⟨by decide, by decide, by decide⟩, rfl⟩
  exact tokensOf_word single.1 single.2

theorem isWord_spelling (k : Token.Keyword) : IsWord k.spelling.toList := by
  cases k <;> exact ⟨by decide, by decide, by decide⟩

/-- The name of the text, which may be empty, as it is between a pair of parentheses. -/
structure Spells (text : String) (ts : List Token) : Prop where
  ascii : IsAscii text.toList
  tokens : ∀ rest, Stops rest → tokensOf (text.toList ++ rest) = ts ++ tokensOf rest

namespace Spells
variable {a b : String} {ts us : List Token}

theorem empty : Spells "" [] :=
  ⟨List.forall_mem_nil _, fun _ _ => rfl⟩

theorem word (word : IsWord a.toList) (ascii : IsAscii a.toList) :
    Spells a [.ofSpelling a.toList] :=
  ⟨ascii, fun _ stops => tokensOf_word_of_stops word stops⟩

theorem ascii_append (first : IsAscii a.toList) (second : IsAscii b.toList) :
    IsAscii (a ++ b).toList := by
  rw [String.toList_append]
  exact List.forall_mem_append.mpr ⟨first, second⟩

theorem spaced (first : Spells a ts) (second : Spells b us) :
    Spells (a ++ " " ++ b) (ts ++ us) := by
  constructor
  · exact ascii_append (ascii_append first.ascii (by decide)) second.ascii
  · intro rest stops
    have text : (a ++ " " ++ b).toList ++ rest = a.toList ++ ' ' :: (b.toList ++ rest) := by simp
    rw [text, first.tokens _ (stops_blank _), tokensOf_blank, second.tokens _ stops,
      List.append_assoc]

theorem listed (first : Spells a ts) (second : Spells b us) :
    Spells (a ++ ", " ++ b) (ts ++ .ofSpelling [','] :: us) := by
  have comma : IsBracket ',' := .inr (.inr rfl)
  constructor
  · exact ascii_append (ascii_append first.ascii (by decide)) second.ascii
  · intro rest stops
    have text : (a ++ ", " ++ b).toList ++ rest = a.toList ++ ',' :: ' ' :: (b.toList ++ rest) := by
      simp
    rw [text, first.tokens _ (comma.stops _), comma.tokensOf, tokensOf_blank,
      second.tokens _ stops, List.append_assoc, List.cons_append]

/-- Parentheses around a text, and in front of them perhaps a word. -/
theorem parentheses (first : Spells a ts) (second : Spells b us) :
    Spells (a ++ "(" ++ b ++ ")") (ts ++ .ofSpelling ['('] :: (us ++ [.ofSpelling [')']])) := by
  have opening : IsBracket '(' := .inl rfl
  have closing : IsBracket ')' := .inr (.inl rfl)
  constructor
  · exact ascii_append (ascii_append (ascii_append first.ascii (by decide)) second.ascii) (by decide)
  · intro rest stops
    have text : (a ++ "(" ++ b ++ ")").toList ++ rest =
        a.toList ++ '(' :: (b.toList ++ ')' :: rest) := by simp
    rw [text, first.tokens _ (opening.stops _), opening.tokensOf,
      second.tokens _ (closing.stops _), closing.tokensOf]
    simp

end Spells

/-! ### Numbers -/

/-- A numeral that starts with a digit is a word. -/
theorem isWord_of_figures {c : Char} {more : List Char} (digit : c.isDigit = true)
    (whole : figures (c :: more) = c :: more) (place : Location) :
    IsWord (c :: more) ∧ Token.ofWord (c :: more) place = .ofFigures (c :: more) place := by
  have letter := isAlpha_of_isDigit digit
  have start : (c.isDigit || decide (c = '.')) = true := by rw [digit, Bool.true_or]
  have stays := skipped_of_start (.inl (isAlphanum_of_isDigit digit))
  refine ⟨⟨List.cons_ne_nil _ _, by rw [layout, stays], ?_⟩, ?_⟩
  · rw [word, if_neg (by simp [letter]), if_pos start, whole]
  · rw [Token.ofWord, if_neg (by simp [letter]), if_pos start]

theorem Decimal.ReadsBack.spells {x : Float} (h : ReadsBack x) :
    ∃ t : Token, Spells (significant x) [t] ∧ t.number? = some x ∧ t.location = none := by
  have read {c : Char} {more : List Char} (text : significant x = String.ofList (c :: more))
      (digit : c.isDigit = true) (whole : figures (c :: more) = c :: more)
      (ascii : IsAscii (c :: more))
      (number : (Token.ofFigures (c :: more) ⟨"", 0, 0, 0⟩).number? = some x) :
      ∃ t : Token, Spells (significant x) [t] ∧ t.number? = some x ∧ t.location = none := by
    obtain ⟨word, same⟩ := isWord_of_figures digit whole ⟨"", 0, 0, 0⟩
    have list : (significant x).toList = c :: more := by rw [text, String.toList_ofList]
    refine ⟨_, .word (list ▸ word) (list ▸ ascii), ?_, rfl⟩
    rw [list, Token.ofSpelling, same]
    exact number
  have ascii {ds : List Char} (digits : ∀ d ∈ ds, d.isDigit = true) : IsAscii ds :=
    fun d mem => toNat_lt_of_isAlphanum (isAlphanum_of_isDigit (digits d mem))
  cases h with
  | whole text some digits value =>
    obtain ⟨c, more, rfl⟩ := List.exists_cons_of_ne_nil some
    refine read text (digits c List.mem_cons_self) (figures_of_digits digits) (ascii digits) ?_
    rw [Scanner.ofFigures_whole digits some, ← value]
    rfl
  | @point ds fs text some digits digits' value =>
    obtain ⟨c, more, rfl⟩ := List.exists_cons_of_ne_nil some
    rw [List.cons_append] at text
    refine read text (digits c List.mem_cons_self) (figures_of_parts digits digits') ?_ ?_
    · refine List.forall_mem_append.mpr ⟨ascii digits, List.forall_mem_cons.mpr ⟨by decide, ?_⟩⟩
      exact ascii digits'
    · rw [← List.cons_append, Scanner.ofFigures_point digits, ← value]
      rfl

namespace Expr

section
variable {ops : Operators}

theorem group_single (o : String) (n : Nat) (l : Option Location) (lhs rhs : Expr) :
    group lhs [⟨o, n, l, rhs⟩] = .binary o lhs rhs l := by
  simp [group, loosest?, Link.join]

theorem DerivesPrimary.expression {ts : List Token} {e : Expr} (h : DerivesPrimary ops ts e) :
    DerivesExpression ops ts e := by
  have alone : DerivesExpression ops (ts ++ []) (group e []) := .chain h (fun _ => rfl) .nil
  rwa [List.append_nil, group_nil] at alone

theorem DerivesExpression.inParentheses {ts : List Token} {e : Expr}
    (h : DerivesExpression ops ts e) :
    DerivesPrimary ops (.ofSpelling ['('] :: (ts ++ [.ofSpelling [')']])) e :=
  .parentheses rfl h rfl

theorem not_isOpen_of_kind {t : Token} {k : Token.Kind} (h : t.kind = k)
    (other : k ≠ .keyword .condition) (ts : List Token) : ¬IsOpen (t :: ts) :=
  fun opened => other (h.symm.trans (isOpen_cons_iff.mp opened))

mutual

/-- **The text of an expression is read as that expression**, whatever the precedences are. -/
theorem exists_tokens : (e : Expr) → e.IsWritten →
    (∀ x ∈ e.numbers, Decimal.ReadsBack x.value) → (∀ o ∈ e.operators, ops.contains o = true) →
    ∃ ts, Spells e.text ts ∧ DerivesPrimary ops ts e.unplaced ∧ ¬IsOpen ts
  | .number x _, written, fine, _ => by
    obtain ⟨t, spells, read, place⟩ := (fine x List.mem_cons_self).spells
    obtain ⟨value, marked⟩ := x
    obtain rfl : marked = false := written
    refine ⟨[t], spells, ?_, not_isOpen_of_kind (Token.kind_of_number? read) nofun []⟩
    rw [unplaced, relocate, ← place]
    exact .number read
  | .var n _, written, _, _ =>
    ⟨_, .word written.word written.ascii, .var written.read,
      not_isOpen_of_kind (Token.kind_of_name? written.read) nofun []⟩
  | .binary o lhs rhs _, written, fine, known => by
    obtain ⟨sign, left, right⟩ := written
    simp only [numbers, operators, List.forall_mem_cons, List.forall_mem_append] at fine known
    obtain ⟨here, known, known'⟩ := known
    obtain ⟨ts, spells, derives, closed⟩ := exists_tokens lhs left fine.1 known
    obtain ⟨us, spells', derives', closed'⟩ := exists_tokens rhs right fine.2 known'
    obtain ⟨n, level⟩ := Option.isSome_iff_exists.mp here
    have inner : DerivesExpression ops (ts ++ .ofSpelling o.toList :: (us ++ []))
        (group lhs.unplaced [⟨o, n, none, rhs.unplaced⟩]) :=
      .chain derives (fun opened => absurd opened closed)
        (.cons ⟨sign.read, level⟩ derives' (fun opened => absurd opened closed') .nil)
    rw [group_single] at inner
    refine ⟨_, ?_, inner.inParentheses, not_isOpen_of_kind (k := .symbol) rfl nofun _⟩
    have text := Spells.empty.parentheses
      ((spells.spaced (.word sign.word sign.ascii)).spaced spells')
    simpa [Expr.text, String.append_assoc] using text
  | .call callee [] _, written, _, _ =>
    ⟨_, (Spells.word written.1.word written.1.ascii).parentheses .empty,
      .call written.1.read rfl rfl, not_isOpen_of_kind (Token.kind_of_name? written.1.read) nofun _⟩
  | .call callee (e :: es) _, written, fine, known => by
    obtain ⟨name, written⟩ := written
    obtain ⟨ts, spells, derives⟩ :=
      exists_tokens_of_all (e :: es) (List.cons_ne_nil _ _) written fine known
    exact ⟨_, (Spells.word name.word name.ascii).parentheses spells,
      .callWith name.read rfl derives rfl, not_isOpen_of_kind (Token.kind_of_name? name.read) nofun _⟩
  | .conditional x y z l, written, fine, known => by
    obtain ⟨first, second, third⟩ := written
    simp only [numbers, operators, List.forall_mem_append] at fine known
    obtain ⟨is, spells₁, derives₁, -⟩ := exists_tokens x first fine.1.1 known.1.1
    obtain ⟨ts, spells₂, derives₂, -⟩ := exists_tokens y second fine.1.2 known.1.2
    obtain ⟨es, spells₃, derives₃, -⟩ := exists_tokens z third fine.2 known.2
    have kind (k : Token.Keyword) : (Token.ofSpelling k.spelling.toList).kind = .keyword k := by
      cases k <;> decide
    have word (k : Token.Keyword) : Spells k.spelling [.ofSpelling k.spelling.toList] :=
      .word (isWord_spelling k) (by cases k <;> decide)
    have inner := DerivesPrimary.expression (.conditional (kind .condition) derives₁.expression
      (kind .consequence) derives₂.expression (kind .alternative) derives₃.expression)
    refine ⟨_, ?_, inner.inParentheses, not_isOpen_of_kind (k := .symbol) rfl nofun _⟩
    have text := Spells.empty.parentheses (((((word .condition).spaced spells₁).spaced
      (word .consequence)).spaced spells₂).spaced (word .alternative) |>.spaced spells₃)
    have whole : (Expr.conditional x y z l).text = "" ++ "(" ++ (Token.Keyword.condition.spelling ++
        " " ++ x.text ++ " " ++ Token.Keyword.consequence.spelling ++ " " ++ y.text ++ " " ++
        Token.Keyword.alternative.spelling ++ " " ++ z.text) ++ ")" :=
      String.toList_inj.mp (by simp [Expr.text, Token.Keyword.spelling])
    rw [whole]
    simpa only [List.append_assoc, List.cons_append, List.nil_append] using text
  | .prototype _, written, _, _ => written.elim
  | .function _ _ _, written, _, _ => written.elim

theorem exists_tokens_of_all : (es : List Expr) → es ≠ [] → AreWritten es →
    (∀ x ∈ numbersOf es, Decimal.ReadsBack x.value) →
    (∀ o ∈ operatorsOf es, ops.contains o = true) →
    ∃ ts, Spells (", ".intercalate (texts es)) ts ∧
      DerivesArguments ops ts (relocateAll (fun _ => none) es)
  | [], nonempty, _, _, _ => absurd rfl nonempty
  | [e], _, written, fine, known => by
    simp only [numbersOf, operatorsOf, List.append_nil] at fine known
    obtain ⟨ts, spells, derives, -⟩ := exists_tokens e written.1 fine known
    exact ⟨ts, spells, .last derives.expression⟩
  | e :: f :: es, _, written, fine, known => by
    rw [numbersOf, List.forall_mem_append] at fine
    rw [operatorsOf, List.forall_mem_append] at known
    obtain ⟨ts, spells, derives, -⟩ := exists_tokens e written.1 fine.1 known.1
    obtain ⟨us, spells', derives'⟩ :=
      exists_tokens_of_all (f :: es) (List.cons_ne_nil _ _) written.2 fine.2 known.2
    refine ⟨_, ?_, .more (c := .ofSpelling [',']) derives.expression rfl derives'⟩
    simpa [texts] using spells.listed spells'

end

/-! ### Statements -/

theorem spells_of_keyword (k : Token.Keyword) : Spells k.spelling [.ofSpelling k.spelling.toList] :=
  .word (isWord_spelling k) (by cases k <;> decide)

theorem kind_ofSpelling (k : Token.Keyword) :
    (Token.ofSpelling k.spelling.toList).kind = .keyword k := by
  cases k <;> decide

theorem exists_tokens_of_parameters (ps : List String) (named : ∀ x ∈ ps, IsName x) :
    ∃ ts, Spells (", ".intercalate ps) ts ∧ DerivesParameters ts ps := by
  induction ps with
  | nil => exact ⟨[], .empty, .none⟩
  | cons n ps ih =>
    obtain ⟨name, named⟩ := List.forall_mem_cons.mp named
    obtain ⟨ts, spells, derives⟩ := ih named
    cases ps with
    | nil => exact ⟨_, .word name.word name.ascii, .last name.read⟩
    | cons m ps =>
      refine ⟨_, ?_, .more (c := .ofSpelling [',']) name.read rfl derives⟩
      simpa using (Spells.word name.word name.ascii).listed spells

theorem exists_tokens_of_signature {p : Prototype} (h : IsNamed p) :
    ∃ ts, Spells p.text ts ∧ DerivesSignature ts (p.relocate fun _ => none) := by
  obtain ⟨ts, spells, derives⟩ := exists_tokens_of_parameters p.params h.params
  exact ⟨_, (Spells.word h.name.word h.name.ascii).parentheses spells,
    .parameters (o := .ofSpelling ['(']) (c := .ofSpelling [')']) h.name.read rfl derives rfl⟩

/-- The text of a construct as a statement: a prototype is one behind its keyword. -/
def statementText : Expr → String
  | prototype p => "extern " ++ p.text
  | e => e.text

theorem exists_tokens_of_statement {e : Expr} (h : IsWrittenStatement e)
    (fine : ∀ x ∈ e.numbers, Decimal.ReadsBack x.value)
    (known : ∀ o ∈ e.operators, ops.contains o = true) :
    ∃ ts, Spells e.statementText ts ∧ DerivesStatement ops ts e.unplaced ∧ ts ≠ [] := by
  cases h with
  | @declaration p named =>
    obtain ⟨ts, spells, derives⟩ := exists_tokens_of_signature named
    refine ⟨_, ?_, .declaration (kind_ofSpelling .declare) derives, List.cons_ne_nil _ _⟩
    have text := (spells_of_keyword .declare).spaced spells
    simpa [statementText, Token.Keyword.spelling] using text
  | @definition p body l named written =>
    obtain ⟨ts, spells, derives⟩ := exists_tokens_of_signature named
    obtain ⟨us, spells', derives', -⟩ := exists_tokens body written fine known
    refine ⟨_, ?_, .definition (kind_ofSpelling .define) derives derives'.expression,
      List.cons_ne_nil _ _⟩
    have text := ((spells_of_keyword .define).spaced spells).spaced spells'
    have other : p.isAnonymous = false := decide_eq_false named.name.ne_anonymous
    simpa [statementText, Expr.text, other, Token.Keyword.spelling] using text
  | @bare body written =>
    obtain ⟨ts, spells, derives, -⟩ := exists_tokens body written fine known
    have text : (anonymous body).statementText = body.text := text_anonymous body
    refine ⟨ts, text ▸ spells, ?_, derives.ne_nil⟩
    rw [unplaced, relocate_anonymous]
    exact .bare derives.expression

/-! ### Parsing again -/

theorem exists_passes (t : Option Token) (x : Array Token.Fault) (u : Token) (us : List Token)
    (l : Option Location) :
    ∃ f g, (Feed.mk t x ((u :: us).map .ok) (.finished l)).next = (none, f) ∧
      f.Passes (u :: us) g ∧ g.current = some (.finish l) := by
  induction us generalizing t x u with
  | nil => exact ⟨_, _, rfl, .cons rfl rfl .nil, rfl⟩
  | cons v us ih =>
    obtain ⟨f, g, next, passes, ended⟩ := ih (some u) _ v
    exact ⟨_, g, rfl, .cons rfl next passes, ended⟩

/-- The end of the input ends every statement. -/
theorem statementEnds_of_finish {e : Expr} {ts : List Token} {g : Feed} {l : Option Location}
    (ended : g.current = some (.finish l)) : StatementEnds ops e ts g := by
  have ends : Ends ops ts g := by
    refine ⟨fun t s p current operator => ?_, fun _ => ?_⟩
    · cases current.symm.trans ended
      cases operator.symbol
    · rw [symbol?, ended]
      rfl
  unfold StatementEnds
  split
  · trivial
  · exact ends

/-- A text whose tokens derive a statement is parsed as that statement, and nothing is left. -/
theorem exists_found_of_spells {e : Expr} {text : String} {ts : List Token} (file : String)
    (plain : ops.IsPlain) (spells : Spells text ts) (derives : DerivesStatement ops ts e)
    (nonempty : ts ≠ []) :
    ∃ f e' g', (Feed.ofSource file (.ofString text)).next = (none, f) ∧
      (statement ops f).outcome = .found e' g' ∧ e'.unplaced = e.unplaced ∧ g'.atEnd = true := by
  have tokens : tokensOf text.toList = ts := by
    have whole := spells.tokens [] nofun
    rwa [List.append_nil, tokensOf_nil, List.append_nil] at whole
  have same : (tokensFrom file [] text.toList).map (Token.relocate fun _ => none) =
      ts.map (Token.relocate fun _ => none) := by
    rw [map_tokensFrom, ← tokens, tokensOf, List.map_map]
    rfl
  obtain ⟨f, k, next, there, matching⟩ := Session.exists_matching_next (x := #[]) (y := #[])
    (l := some (.atEnd file text.toList)) (k := none) none none same
  obtain ⟨u, us, rfl⟩ := List.exists_cons_of_ne_nil nonempty
  obtain ⟨k', last, there', passes, ended⟩ := exists_passes none #[] u us none
  cases there.symm.trans there'
  have found := statement_of_derives plain derives passes (statementEnds_of_finish ended)
  have alike := statement_alike (Session.Matching.lockstep ops) matching
  generalize outcome : (statement ops f).outcome = x at alike
  rw [found] at alike
  cases alike with
  | @found e' _ g' _ equal behind =>
    have finished : last.atEnd = true := by
      rw [Feed.atEnd, ended]
      rfl
    refine ⟨f, e', g', ?_, outcome, equal, ?_⟩
    · rw [Feed.ofSource_ofString file spells.ascii]
      exact next
    · exact ((Session.Matching.lockstep ops).any_eq behind fun _ => rfl).trans finished

/-- **Printing and parsing gives the tree back.** A statement that was found in a source, by
whatever table and behind whatever requests, is found again in its own text, up to its places,
and nothing is left of the text. The other table may give the operators any precedences. -/
theorem statement_text {ops₁ ops₂ : Operators} {file file' : String} {source : Source} {n : Nat}
    {e : Expr} {g : Feed}
    (found : (statement ops₁ ((Feed.ofSource file source).behind n)).outcome = .found e g)
    (fine : ∀ x ∈ e.numbers, Decimal.ReadsBack x.value) (plain : ops₂.IsPlain)
    (known : ∀ o ∈ e.operators, ops₂.contains o = true) :
    ∃ f e' g', (Feed.ofSource file' (.ofString e.statementText)).next = (none, f) ∧
      (statement ops₂ f).outcome = .found e' g' ∧ e'.unplaced = e.unplaced ∧ g'.atEnd = true := by
  obtain ⟨ts, passes, derives, -⟩ := derives_of_statement found
  have scanned := (Feed.every_behind file source n).passes (fun _ => .finish) passes
  obtain ⟨us, spells, derives', nonempty⟩ :=
    exists_tokens_of_statement (written_of_statement derives scanned) fine known
  obtain ⟨f, e', g', next, again, same, ended⟩ :=
    exists_found_of_spells file' plain spells derives' nonempty
  refine ⟨f, e', g', next, again, same.trans ?_, ended⟩
  rw [unplaced, unplaced, relocate_relocate]
  rfl

/-- A table by which sums bind tighter than products. -/
def swapped : Operators :=
  ⟨[('+', 40), ('*', 20)]⟩

/-- The text of a sum and a product is parsed alike by a table that would group them otherwise. -/
theorem statement_text_of_sum : ∃ e g,
    (statement .standard ((Feed.ofSource "<stdin>" (.ofString "a+1.5*c")).behind 1)).outcome =
      .found e g ∧ e.numbers.map (·.value) = [1.5] ∧ Decimal.ReadsBack 1.5 ∧ swapped.IsPlain ∧
    (∀ o ∈ e.operators, swapped.contains o = true) ∧
    ∃ f e' g', (Feed.ofSource "<stdin>" (.ofString e.statementText)).next = (none, f) ∧
      (statement swapped f).outcome = .found e' g' ∧ e'.unplaced = e.unplaced ∧
      g'.atEnd = true := by
  have checked : ((Session.move? .standard
      ((Feed.ofSource "<stdin>" (.ofString "a+1.5*c")).behind 1)).any fun r =>
        r.1.statement?.any fun e =>
          decide (e.numbers.map (·.value) = [1.5]) && e.operators.all swapped.contains) = true := by
    decide +kernel
  obtain ⟨⟨m, g⟩, move, checked⟩ := (Option.any_eq_true _ _).mp checked
  obtain ⟨e, is, checked⟩ := (Option.any_eq_true _ _).mp checked
  obtain rfl : m = .statement e := by
    cases m with
    | statement => exact congrArg Session.Move.statement (Option.some.inj is)
    | _ => cases is
  obtain ⟨numbers, known⟩ := (Bool.and_eq_true _ _).mp checked
  have found := Session.found_of_move? move
  have numbers := of_decide_eq_true numbers
  have reads : Decimal.ReadsBack 1.5 :=
    @Decimal.ReadsBack.point _ ['1'] ['5'] (by decide +kernel) (by decide)
      (List.forall_mem_singleton.mpr rfl) (List.forall_mem_singleton.mpr rfl) (by decide +kernel)
  have fine : ∀ x ∈ e.numbers, Decimal.ReadsBack x.value := by
    intro x mem
    have value : x.value ∈ e.numbers.map (·.value) := List.mem_map_of_mem mem
    rw [numbers, List.mem_singleton] at value
    rwa [value]
  have plain : swapped.IsPlain := ⟨by decide, by decide, by decide⟩
  have known := List.all_eq_true.mp known
  exact ⟨e, g, found, numbers, reads, plain, known, statement_text found fine plain known⟩

end

end Expr

end Reckoner

import Reckoner.Proofs.Token.Lookahead
import Reckoner.Proofs.Token.Munch

/-! What a lexer has read when it gives a token.

A token is the longest piece where it stands, and one more character is enough to tell that
(`Munch.congr`). So a lexer that has given a token has read the text up to the character behind it,
and it would have given the same tokens if anything else stood from there on
(`Scanner.Gives.one_ahead`, `Scanner.Gives.followedBy`). If that character is a foreign one, the
token is not given (`Lexer.reads_one_ahead`). -/
namespace Reckoner

/-! ### One more character -/

section
variable {P : List Char → Prop} {w rest rest' : List Char} {place : Location} {t : Token}

/-- Which piece is the longest shows in the character behind it, if a piece of the sort stays one
when it is cut short. -/
theorem IsLongest.congr (h : IsLongest P w rest) (shorter : ∀ v v', v ≠ [] → P (v ++ v') → P v)
    (same : rest'.head? = rest.head?) : IsLongest P w rest' := by
  refine ⟨h.fits, fun v start fits => ?_⟩
  by_contra longer
  obtain ⟨more, rfl⟩ : w <+: v :=
    List.prefix_of_prefix_length_le (List.prefix_append w rest') start (Nat.le_of_not_le longer)
  cases more with
  | nil => exact longer (by rw [List.append_nil])
  | cons d more =>
    obtain ⟨left, behind⟩ := (List.prefix_append_right_inj w).mp start
    rw [← behind, List.cons_append, List.head?_cons] at same
    obtain ⟨others, rest⟩ := List.head?_eq_some_iff.mp same.symm
    have short : P (w ++ [d]) := shorter (w ++ [d]) more (by simp) (by simpa using fits)
    have le := h.longest (w ++ [d]) ⟨others, by simp [rest]⟩ short
    rw [List.length_append] at le
    exact Nat.not_succ_le_self _ le

theorem isNameRun_of_append (v v' : List Char) (some : v ≠ []) (h : IsNameRun (v ++ v')) :
    IsNameRun v := by
  obtain ⟨c, more, rfl⟩ := List.exists_cons_of_ne_nil some
  obtain ⟨d, others, whole, letter, fits⟩ := h
  obtain ⟨rfl, rfl⟩ := List.cons.inj whole
  exact ⟨c, more, rfl, letter, fun d hd => fits d (List.mem_append_left _ hd)⟩

theorem isNumeral_of_append (v v' : List Char) (some : v ≠ []) (h : IsNumeral (v ++ v')) :
    IsNumeral v := by
  refine ⟨some, fun c hc => h.figures c (List.mem_append_left _ hc), ?_⟩
  have points := h.points
  rw [List.count_append] at points
  omega

/-- **The rule looks at one character behind a piece** and at no other. -/
theorem Munch.congr (h : Munch place w rest t) (same : rest'.head? = rest.head?) :
    Munch place w rest' t := by
  cases h with
  | keyword long spelled => exact .keyword (long.congr isNameRun_of_append same) spelled
  | identifier long other => exact .identifier (long.congr isNameRun_of_append same) other
  | whole long none => exact .whole (long.congr isNumeral_of_append same) none
  | decimal long point more => exact .decimal (long.congr isNumeral_of_append same) point more
  | malformed long single => exact .malformed (long.congr isNumeral_of_append same) single
  | symbol single letter figure blank sharp => exact .symbol single letter figure blank sharp

end

/-! ### Scans in a text -/

namespace Scanner
variable {file : String} {before cs gap w rest : List Char} {s u : Scanner} {t : Token}
  {ts : List Token}

/-- A scan takes what the rule takes. -/
theorem next_within_munch (between : IsGap false gap)
    (munch : Munch (.behind file (before ++ gap)) w rest t) (ascii : IsAscii (gap ++ (w ++ rest))) :
    next (within file before (gap ++ (w ++ rest))) = .ok t (within file (before ++ gap ++ w) rest) := by
  obtain ⟨c, cs, text, found⟩ := munch.exists_layout between
  have whole := munch.word_eq
  rw [next_within_cons ascii found, ← text, whole, List.drop_left, ← munch.eq_ofWord]

/-- A scan that does not come to the end of the text takes what the rule takes. -/
theorem exists_munch_of_next (ascii : IsAscii cs) (h : next (within file before cs) = .ok t u)
    (more : t.kind ≠ .endOfInput) :
    ∃ gap w rest, cs = gap ++ (w ++ rest) ∧ IsGap false gap ∧
      Munch (.behind file (before ++ gap)) w rest t ∧ u = within file (before ++ gap ++ w) rest := by
  have munches := munches_tokensFrom file before cs
  cases found : layout false cs with
  | mk gap left =>
    cases left with
    | nil =>
      cases (next_within_nil ascii found).symm.trans h
      exact absurd rfl more
    | cons c rest =>
      cases (next_within_cons ascii found).symm.trans h
      refine ⟨gap, _, _, ?_, isGap_of_layout_cons found, munch_word (skipped_of_layout found) _, rfl⟩
      rw [word_append, append_of_layout found]

theorem next_of_pending_none (pending : s.pending = none) : next s = .ok (.finish s.here) s := by
  have stays : skip false s = .ok () s :=
    skip_of_none fun c here => by cases pending.symm.trans here
  simp only [next, bind, EStateM.bind, stays, token_of_none pending]

theorem Gives.congr {v : Scanner} (h : s.Gives ts u) (some : ts ≠ []) (same : next v = next s) :
    v.Gives ts u := by
  cases h with
  | nil => exact absurd rfl some
  | cons given more rest => exact .cons (same.trans given) more rest

/-- **A run of scans looks at one character behind its last token** and at no other. -/
theorem Gives.one_ahead (h : (within file before cs).Gives (ts ++ [t]) u) (ascii : IsAscii cs) :
    ∃ start w rest, cs = start ++ (w ++ rest) ∧ w ≠ [] ∧ t.lexeme = String.ofList w ∧
      t.location = some (.behind file (before ++ start)) ∧
      u = within file (before ++ start ++ w) rest ∧
      ∀ rest', rest'.head? = rest.head? → IsAscii (start ++ (w ++ rest')) →
        (within file before (start ++ (w ++ rest'))).Gives (ts ++ [t])
          (within file (before ++ start ++ w) rest') := by
  induction ts generalizing before cs with
  | nil =>
    cases h with
    | cons given more behind =>
      cases behind
      obtain ⟨gap, w, rest, rfl, between, munch, rfl⟩ := exists_munch_of_next ascii given more
      obtain ⟨c, tail, some, -⟩ := munch.start
      refine ⟨gap, w, rest, rfl, by simp [some], munch.lexeme, ?_, rfl, fun rest' same ascii' => ?_⟩
      · rw [munch.eq_ofWord, Token.location_ofWord]
      · exact .cons (next_within_munch between (munch.congr same) ascii') more .nil
  | cons x ts ih =>
    cases h with
    | cons given more behind =>
      obtain ⟨gap, v, left, rfl, between, munch, rfl⟩ := exists_munch_of_next ascii given more
      have later : IsAscii left := fun c hc => ascii c (by simp [hc])
      obtain ⟨start, w, rest, rfl, some, lexeme, place, rfl, same⟩ := ih behind later
      refine ⟨gap ++ v ++ start, w, rest, by simp, some, lexeme, by simpa using place, by simp,
        fun rest' head ascii' => ?_⟩
      have head' : (start ++ (w ++ rest')).head? = (start ++ (w ++ rest)).head? := by
        obtain ⟨c, more, rfl⟩ := List.exists_cons_of_ne_nil some
        cases start <;> rfl
      have whole : gap ++ v ++ start ++ (w ++ rest') = gap ++ (v ++ (start ++ (w ++ rest'))) := by
        simp
      have behind' := same rest' head fun c hc => ascii' c (by simp_all)
      rw [whole] at ascii' ⊢
      refine .cons (next_within_munch between (munch.congr head') ascii') more ?_
      simpa using behind'

/-! ### More behind a text -/

theorem Gives.pending (h : s.Gives ts u) (more : u.pending ≠ none) : s.pending ≠ none := by
  cases h with
  | nil => exact more
  | cons given inside _ =>
    intro none
    cases (next_of_pending_none none).symm.trans given
    exact inside rfl

/-- As long as a character of a text is pending, it makes no difference what stands behind it. -/
theorem Gives.followedBy (text : s.InText) (h : s.Gives ts u) (more : u.pending ≠ none)
    (tail : Source) : (s.followedBy tail).Gives ts (u.followedBy tail) := by
  induction h with
  | nil => exact .nil
  | @cons s t v ts u given inside rest ih =>
    have start := (Gives.cons given inside rest).pending more
    cases (foresees_next text : Foresees tail next s) with
    | ended _ none => exact absurd none start
    | inside _ _ _ text' _ run there =>
      cases given.symm.trans run
      exact .cons there inside (ih text' more)
    | reached _ _ _ _ none run =>
      cases given.symm.trans run
      exact absurd none (rest.pending more)

end Scanner

/-! ### Lexers -/

namespace Lexer

/-- Requests that give these tokens one after the other, none of them the end of the input. -/
inductive Gives : Lexer → List Token → Lexer → Prop where
  | nil {l} : Gives l [] l
  | cons {l t m ts n} : l.next = (.ok t, m) → t.kind ≠ .endOfInput → Gives m ts n →
    Gives l (t :: ts) n

variable {l m : Lexer} {t : Token} {ts : List Token} {s u : Scanner} {file : String}

theorem Gives.concat {n : Lexer} (h : l.Gives ts m) (given : m.next = (.ok t, n))
    (more : t.kind ≠ .endOfInput) : l.Gives (ts ++ [t]) n := by
  induction h with
  | nil => exact .cons given more .nil
  | cons first inside _ ih => exact .cons first inside (ih given)

theorem scan_of_next (h : l.next = (.ok t, m)) : l.scanner.next = .ok t m.scanner := by
  unfold next at h
  split at h
  · rename_i scan
    cases h
    exact scan
  · cases h

theorem Gives.scanner (h : l.Gives ts m) : l.scanner.Gives ts m.scanner := by
  induction h with
  | nil => exact .nil
  | cons given more _ ih => exact .cons (scan_of_next given) more ih

/-- The requests for tokens that a scanner gives make the last one current. -/
theorem exists_gives (h : s.Gives ts u) (here : l.scanner = s) :
    ∃ m, l.Gives ts m ∧ m.scanner = u ∧ m.current = ts.getLast?.or l.current := by
  induction h generalizing l with
  | nil => exact ⟨l, .nil, here, rfl⟩
  | @cons s t v ts u given more _ ih =>
    subst here
    obtain ⟨m, gives, scanner, current⟩ :=
      ih (l := { scanner := v, current := some t, faults := l.faults ++ t.fault?.toArray }) rfl
    refine ⟨m, .cons (by rw [next, given]) more gives, scanner, ?_⟩
    rw [current]
    cases ts with
    | nil => rfl
    | cons x ts =>
      rw [List.getLast?_cons_cons, List.getLast?_eq_some_getLast (List.cons_ne_nil x ts)]
      rfl

/-- What stands behind the character that follows a token is of no account to it. -/
theorem exists_gives_of_take {w start rest cs other : List Char} (some : ts ≠ [])
    (whole : cs = start ++ (w ++ rest)) (ascii : IsAscii cs)
    (h : (Scanner.within file [] cs).Gives ts u)
    (ahead : ∀ rest', rest'.head? = rest.head? → IsAscii (start ++ (w ++ rest')) →
      (Scanner.within file [] (start ++ (w ++ rest'))).Gives ts (.within file (start ++ w) rest'))
    (same : other.take ((start ++ w).length + 1) = cs.take ((start ++ w).length + 1)) :
    ∃ k, (ofSource file (.ofList other)).Gives ts k := by
  have run : ∃ v, Scanner.Gives { file, source := .ofList other } ts v := by
    cases rest with
    | nil =>
      have length := congrArg List.length same
      rw [whole, List.append_nil, List.length_take, List.take_of_length_le (Nat.le_succ _)] at length
      have short : other.length ≤ (start ++ w).length + 1 := by omega
      obtain rfl : other = cs := by
        rwa [List.take_of_length_le short, List.take_of_length_le (by simp [whole])] at same
      exact ⟨u, h.congr some (Scanner.next_start ascii)⟩
    | cons d rest =>
      have parts : cs = (start ++ (w ++ [d])) ++ rest := by simp [whole]
      have short : other.take ((start ++ w).length + 1) = start ++ (w ++ [d]) := by
        rw [same, parts]
        exact List.take_left' (by simp [Nat.add_assoc])
      have ascii' : IsAscii (start ++ (w ++ [d])) := fun c hc =>
        ascii c (parts ▸ List.mem_append_left _ hc)
      have begun := (ahead [d] rfl ascii').congr some (Scanner.next_start ascii')
      have longer := begun.followedBy (Scanner.inText_ofList file ascii') nofun
        (.ofList (other.drop ((start ++ w).length + 1)))
      have source : Scanner.followedBy { file, source := .ofList (start ++ (w ++ [d])) }
          (.ofList (other.drop ((start ++ w).length + 1))) = { file, source := .ofList other } := by
        simp only [Scanner.followedBy, Source.ofList, ← List.map_append, ← short,
          List.take_append_drop]
      exact ⟨_, source ▸ longer⟩
  obtain ⟨v, gives⟩ := run
  obtain ⟨k, given, -⟩ := exists_gives (l := ofSource file (.ofList other)) gives rfl
  exact ⟨k, given⟩

/-- **A lexer reads one character ahead.** When it has given a token that ends at an index, it has
read the character there, if there is one, and no more; so it gives the same tokens up to that one
for every text that agrees with this one so far. If it comes upon a foreign character, it has given
the tokens of the text in front of it that end before the last character there, and no others; the
last of them remains the current one. -/
theorem reads_one_ahead (file text : String) :
    (IsAscii text.toList → ∀ ts t l m, (ofSource file (.ofString text)).Gives ts l →
      l.next = (.ok t, m) → t.kind ≠ .endOfInput →
      ∃ b e, b < e ∧ e ≤ text.toList.length ∧
        t.lexeme = String.ofList (text.toList.extract b e) ∧
        t.location = some (.behind file (text.toList.take b)) ∧
        m.scanner.source = .ofList (text.toList.drop (e + 1)) ∧
        m.scanner.offset = min (e + 1) text.toList.length ∧
        ∀ other : String, other.toList.take (e + 1) = text.toList.take (e + 1) →
          ∃ k, (ofSource file (.ofString other)).Gives (ts ++ [t]) k) ∧
    ∀ before c rest, text.toList = before ++ c :: rest → IsAscii before → 128 ≤ c.toNat →
      ∃ ts m, (ofSource file (.ofList before)).rest =
          (.ok (ts ++ [.finish (some (.atEnd file before))]), m) ∧
        ∃ l k, (ofSource file (.ofString text)).Gives
            (ts.filter (Token.endsBefore before.length)) l ∧
          (∃ fault : Token.Fault, l.next = (.error fault, k) ∧ fault.code = "L001" ∧
            fault = .foreign c (.behind file before)) ∧
          k.current = (ts.filter (Token.endsBefore before.length)).getLast? := by
  constructor
  · intro ascii ts t l m gives given more
    have run := (gives.concat given more).scanner.congr (by simp) (Scanner.next_start ascii).symm
    obtain ⟨start, w, rest, whole, some, lexeme, place, here, ahead⟩ := run.one_ahead ascii
    simp only [List.nil_append] at place here ahead
    refine ⟨start.length, (start ++ w).length, ?_, ?_, ?_, ?_, ?_, ?_, fun other same => ?_⟩
    · simpa [List.length_pos_iff] using some
    · simp [whole]
    · rw [lexeme, whole, extract_append]
    · rw [place, whole, List.take_left]
    · rw [here, whole, ← List.append_assoc, ← List.drop_drop, List.drop_left, List.drop_one]
      rfl
    · rw [here, whole, ← List.append_assoc]
      simp only [Scanner.within, Scanner.having, List.length_append, List.length_take]
      omega
    · exact exists_gives_of_take (by simp) whole ascii run ahead same
  · intro before c rest whole ascii other
    have breaks : (Source.ofString text).BreaksOff file before (.foreign c (.behind file before)) := by
      rw [Source.ofString, whole, Source.ofList, List.map_append, List.map_cons]
      exact .foreign c _ _ other
    obtain ⟨tail, start, broken⟩ := breaks.exists_tail
    obtain ⟨u, v, gives, failed⟩ := Scanner.exists_gives_of_breaks
      (Scanner.inText_ofList file ascii) (Option.some_ne_none _) (Scanner.next_start ascii) ascii
      broken
    obtain ⟨l, given, rfl, current⟩ :=
      exists_gives (l := ofSource file (.ofString text)) gives start
    obtain ⟨m, collected, -⟩ := collect_within (l := ofSource file (.ofList before))
      (Scanner.next_start ascii) ascii []
    refine ⟨tokensFrom file [] before, m, collected, l, { l with scanner := v }, given, ?_, ?_⟩
    · exact ⟨_, by rw [next, failed], rfl, rfl⟩
    · rw [current]
      exact Option.or_none

/-- A name of which the end shows at a blank, and a separator that is lost at a foreign
character. -/
theorem reads_one_ahead_of_foreign :
    (∃ t m, (ofSource "<stdin>" (.ofString "a b")).next = (.ok t, m) ∧ t.kind ≠ .endOfInput ∧
      ∃ e, m.scanner.offset = min (e + 1) 3 ∧
        ∀ other : String, other.toList.take (e + 1) = "a b".toList.take (e + 1) →
          ∃ k, (ofSource "<stdin>" (.ofString other)).Gives [t] k) ∧
    IsAscii "1;".toList ∧ ∃ ts l k, (ofSource "<stdin>" (.ofString "1;é")).Gives ts l ∧
      l.next = (.error (.foreign 'é' ⟨"<stdin>", 1, 3, 3⟩), k) ∧ k.current = ts.getLast? := by
  have ascii : IsAscii "a b".toList := by decide
  have ascii' : IsAscii "1;".toList := by decide
  have start : layout false "a b".toList = ([], 'a' :: [' ', 'b']) := by decide
  have place : Location.behind "<stdin>" "1;".toList = ⟨"<stdin>", 1, 3, 3⟩ := by decide
  obtain ⟨m, given, -⟩ := next_of_layout_cons (l := ofSource "<stdin>" (.ofString "a b"))
    (Scanner.next_start ascii) ascii start
  have more := Token.kind_ofWord (word_ne_nil 'a' [' ', 'b']) (.behind "<stdin>" ([] ++ []))
  obtain ⟨b, e, -, -, -, -, -, offset, same⟩ :=
    (reads_one_ahead "<stdin>" "a b").1 ascii [] _ _ m .nil given more
  obtain ⟨ts, -, -, l, k, gives, ⟨fault, failed, -, rfl⟩, current⟩ :=
    (reads_one_ahead "<stdin>" "1;é").2 "1;".toList 'é' [] rfl ascii' (by decide)
  exact ⟨⟨_, m, given, more, e, offset, same⟩, ascii', _, l, k, gives, place ▸ failed, current⟩

end Lexer

end Reckoner

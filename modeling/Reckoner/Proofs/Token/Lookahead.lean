import Reckoner.Proofs.Token.Texts

/-! Reading one character ahead.

A scan knows no more of its source than it has read, and it has read one character more
than it has cut. So if something stands behind a text, a scan that leaves a character of the
text pending is not changed by that, and one that comes to the end of the text reads what
stands there before it gives its token (`Foresees`). If that cannot be read, then the tokens
that end in front of the last character of the text are given and no others
(`Feed.exists_ofSource_of_breaksOff`). -/
namespace Reckoner

namespace Scanner

/-- The scanner with more to read behind what it has. -/
def followedBy (s : Scanner) (tail : Source) : Scanner :=
  { s with source := { tail with reads := s.source.reads ++ tail.reads } }

/-- A scanner of good characters only, which is at their end if none is pending. -/
structure InText (s : Scanner) : Prop where
  whole : s.source.cutOff = none
  good : ∀ r ∈ s.source.reads, ∃ c, r = .char c ∧ c.toNat < 128
  ended : s.pending = none → s.source.reads = []

/-- Where a scanner has come to the end of its text, the first read of what stands behind
meets a fault. -/
def Breaks (tail : Source) (u : Scanner) (fault : Token.Fault) : Prop :=
  ∀ c, ∃ t, read ({ u with pending := some c }.followedBy tail) = .error fault t

/-- What a scan of a text comes to if more stands behind the text: the same, unless it has
come to the end of the text. -/
inductive Foresees {α : Type} (tail : Source) (x : Scan α) (s : Scanner) : Prop where
  | ended (a : α) : s.pending = none → x s = .ok a s → Foresees tail x s
  | inside (a : α) (u : Scanner) : s.pending ≠ none → u.InText → u.pending ≠ none →
    x s = .ok a u → x (s.followedBy tail) = .ok a (u.followedBy tail) → Foresees tail x s
  | reached (a : α) (u : Scanner) : s.pending ≠ none → u.InText → u.pending = none →
    x s = .ok a u →
    (∀ fault, Breaks tail u fault → ∃ t, x (s.followedBy tail) = .error fault t) →
    Foresees tail x s

section
variable {α β : Type} {tail : Source} {s : Scanner}

@[simp]
theorem pending_followedBy : (s.followedBy tail).pending = s.pending := rfl

@[simp]
theorem here_followedBy : (s.followedBy tail).here = s.here := rfl

/-- A scan that moves nothing. -/
theorem Foresees.stay {x : Scan α} (text : s.InText) (a : α) (here : x s = .ok a s)
    (there : x (s.followedBy tail) = .ok a (s.followedBy tail)) : Foresees tail x s := by
  cases pending : s.pending with
  | none => exact .ended a pending here
  | some c =>
    have more : s.pending ≠ none := by simp [pending]
    exact .inside a s more text more here there

theorem Foresees.pure (text : s.InText) (a : α) : Foresees tail (Pure.pure a) s :=
  .stay text a rfl rfl

theorem Foresees.congr {x y : Scan α} (h : Foresees tail y s) (here : x s = y s)
    (there : x (s.followedBy tail) = y (s.followedBy tail)) : Foresees tail x s := by
  cases h with
  | ended a none run => exact .ended a none (here.trans run)
  | inside a u more text more' run run' =>
    exact .inside a u more text more' (here.trans run) (there.trans run')
  | reached a u more text none run broken =>
    exact .reached a u more text none (here.trans run) (by rwa [there])

theorem Foresees.bind {x : Scan α} {f : α → Scan β} (text : s.InText) (first : Foresees tail x s)
    (rest : ∀ a u, u.InText → x s = .ok a u → Foresees tail (f a) u) :
    Foresees tail (x >>= f) s := by
  cases first with
  | ended a none run =>
    cases rest a s text run with
    | ended b _ run' => exact .ended b none (by simp only [Bind.bind, EStateM.bind, run, run'])
    | inside _ _ more => exact absurd none more
    | reached _ _ more => exact absurd none more
  | inside a u more text' pending run there =>
    cases rest a u text' run with
    | ended _ none => exact absurd none pending
    | inside b v _ text'' pending' run' there' =>
      refine .inside b v more text'' pending' ?_ ?_
      · simp only [Bind.bind, EStateM.bind, run, run']
      · simp only [Bind.bind, EStateM.bind, there, there']
    | reached b v _ text'' none run' broken =>
      refine .reached b v more text'' none ?_ fun fault breaks => ?_
      · simp only [Bind.bind, EStateM.bind, run, run']
      · obtain ⟨t, broken⟩ := broken fault breaks
        exact ⟨t, by simp only [Bind.bind, EStateM.bind, there, broken]⟩
  | reached a u more text' none run broken =>
    cases rest a u text' run with
    | ended b _ run' =>
      refine .reached b u more text' none ?_ fun fault breaks => ?_
      · simp only [Bind.bind, EStateM.bind, run, run']
      · obtain ⟨t, broken⟩ := broken fault breaks
        exact ⟨t, by simp only [Bind.bind, EStateM.bind, broken]⟩
    | inside _ _ more' => exact absurd none more'
    | reached _ _ more' => exact absurd none more'

theorem foresees_read (text : s.InText) : Foresees tail read s := by
  obtain ⟨file, ⟨reads, cutOff⟩, line, column, offset, afterBreak, pending⟩ := s
  obtain ⟨whole, good, ended⟩ := text
  cases whole
  cases reads with
  | nil =>
    cases pending with
    | none => exact .ended () rfl rfl
    | some c =>
      have run : read ⟨file, ⟨[], none⟩, line, column, offset, afterBreak, some c⟩ =
          .ok () ⟨file, ⟨[], none⟩, line, column, offset, afterBreak, none⟩ := rfl
      refine .reached () _ nofun ?_ ?_ run fun _ breaks => breaks c
      · exact ⟨rfl, good, fun _ => rfl⟩
      · rfl
  | cons r rest =>
    have more : pending ≠ none := fun none => by cases ended none
    obtain ⟨c, rfl, ascii⟩ := good r List.mem_cons_self
    refine .inside () _ more ⟨rfl, fun d hd => good d (List.mem_cons_of_mem _ hd), ?_⟩ ?_
      (if_pos ascii) (if_pos ascii)
    · exact nofun
    · exact nofun

theorem skip_of_some {comment inside : Bool} {c : Char} (pending : s.pending = some c)
    (goes : skipped comment c = some inside) :
    skip comment s = (read >>= fun _ => skip inside) s := by
  simp only [Bind.bind, EStateM.bind]
  rw [skip]
  split
  · rename_i none
    cases pending.symm.trans none
  · rename_i d here
    cases pending.symm.trans here
    rw [goes]
    dsimp only
    split
    · rename_i moved
      rw [moved]
    · rename_i failed
      rw [failed]

theorem skip_of_none {comment : Bool} (stays : ∀ c, s.pending = some c → skipped comment c = none) :
    skip comment s = .ok () s := by
  rw [skip]
  split
  · rfl
  · rename_i c pending
    rw [stays c pending]

theorem foresees_skip (text : s.InText) (comment : Bool) : Foresees tail (skip comment) s := by
  induction bound : s.remaining using Nat.strongRecOn generalizing s comment with
  | ind n ih =>
    subst bound
    by_cases stays : ∀ c, s.pending = some c → skipped comment c = none
    · exact .stay text () (skip_of_none stays) (skip_of_none stays)
    · push Not at stays
      obtain ⟨c, pending, goes⟩ := stays
      obtain ⟨inside, goes⟩ := Option.ne_none_iff_exists'.mp goes
      refine .congr (.bind text (foresees_read text) fun _ u text' moved => ?_)
        (skip_of_some pending goes) (skip_of_some pending goes)
      exact ih _ (remaining_read_lt pending moved) text' inside rfl

theorem collect_of_some {p : Char → Bool} {cs : List Char} {c : Char} (pending : s.pending = some c)
    (fits : p c = true) : collect p cs s = (read >>= fun _ => collect p (c :: cs)) s := by
  simp only [Bind.bind, EStateM.bind]
  rw [collect]
  split
  · rename_i none
    cases pending.symm.trans none
  · rename_i d here
    cases pending.symm.trans here
    rw [if_pos fits]
    split
    · rename_i moved
      simp only [moved]
    · rename_i failed
      simp only [failed]

theorem collect_of_none {p : Char → Bool} (cs : List Char)
    (stays : ∀ c, s.pending = some c → p c = false) : collect p cs s = .ok (cs.reverseAux []) s := by
  rw [collect]
  split
  · rfl
  · rename_i c pending
    rw [if_neg (by simp [stays c pending])]

theorem foresees_collect (text : s.InText) (p : Char → Bool) (cs : List Char) :
    Foresees tail (collect p cs) s := by
  induction bound : s.remaining using Nat.strongRecOn generalizing s cs with
  | ind n ih =>
    subst bound
    by_cases stays : ∀ c, s.pending = some c → p c = false
    · exact .stay text _ (collect_of_none cs stays) (collect_of_none cs stays)
    · push Not at stays
      obtain ⟨c, pending, fits⟩ := stays
      have fits : p c = true := by simpa using fits
      refine .congr (.bind text (foresees_read text) fun _ u text' moved => ?_)
        (collect_of_some pending fits) (collect_of_some pending fits)
      exact ih _ (remaining_read_lt pending moved) text' _ rfl

theorem foresees_run (text : s.InText) (p : Char → Bool) : Foresees tail (run p) s :=
  foresees_collect text p []

theorem foresees_name (text : s.InText) (place : Location) : Foresees tail (name place) s := by
  refine .bind text (foresees_run text _) fun cs u text' _ => ?_
  dsimp only
  split <;> exact .pure text' _

theorem foresees_fraction (text : s.InText) (whole : List Char) (place : Location) :
    Foresees tail (fraction whole place) s := by
  refine .bind text (foresees_read text) fun _ u text' _ => ?_
  refine .bind text' (foresees_run text' _) fun digits v text'' _ => ?_
  dsimp only
  split <;> exact .pure text'' _

theorem foresees_afterDigits (text : s.InText) (whole : List Char) (place : Location) :
    Foresees tail (afterDigits whole place) s := by
  by_cases point : s.pending = some '.'
  · exact (foresees_fraction text whole place).congr (if_pos point) (if_pos point)
  · exact .stay text _ (if_neg point) (if_neg point)

theorem foresees_numeral (text : s.InText) (place : Location) : Foresees tail (numeral place) s :=
  .bind text (foresees_run text _) fun whole _ text' _ => foresees_afterDigits text' whole place

theorem foresees_symbol (text : s.InText) (c : Char) (place : Location) :
    Foresees tail (symbol c place) s :=
  .bind text (foresees_read text) fun _ _ text' _ => .pure text' _

theorem token_of_none (pending : s.pending = none) : token s = .ok (.finish s.here) s := by
  unfold token
  rw [pending]

theorem token_of_some (pending : s.pending = some c) : token s =
    if c.isAlpha then name s.here s
    else if c.isDigit || c = '.' then numeral s.here s
    else symbol c s.here s := by
  unfold token
  rw [pending]

theorem foresees_token (text : s.InText) : Foresees tail token s := by
  cases pending : s.pending with
  | none => exact .ended _ pending (token_of_none pending)
  | some c =>
    have here := token_of_some pending
    have there := token_of_some ((pending_followedBy : (s.followedBy tail).pending = _).trans pending)
    rw [here_followedBy] at there
    by_cases letter : c.isAlpha = true
    · rw [if_pos letter] at here there
      exact (foresees_name text _).congr here there
    · rw [if_neg letter] at here there
      by_cases start : (c.isDigit || decide (c = '.')) = true
      · rw [if_pos start] at here there
        exact (foresees_numeral text _).congr here there
      · rw [if_neg start] at here there
        exact (foresees_symbol text c _).congr here there

/-- **A scan reads one character ahead** and looks at no other. -/
theorem foresees_next (text : s.InText) : Foresees tail next s :=
  .bind text (foresees_skip text false) fun _ _ text' _ => foresees_token text'

end

section
variable {file : String} {before cs : List Char}

theorem inText_ofList (file : String) (ascii : IsAscii cs) :
    InText { file, source := .ofList cs } := by
  refine ⟨rfl, fun r hr => ?_, nofun⟩
  obtain ⟨c, hc, rfl⟩ := List.mem_map.mp hr
  exact ⟨c, rfl, ascii c hc⟩

end

/-- Scans that give these tokens one after the other, none of them the end of the input. -/
inductive Gives : Scanner → List Token → Scanner → Prop where
  | nil {s} : Gives s [] s
  | cons {s t u ts v} : next s = .ok t u → t.kind ≠ .endOfInput → Gives u ts v →
    Gives s (t :: ts) v

end Scanner

/-! ### Sources that break off -/

/-- A source that breaks off behind a text, at a foreign character or a read that fails, with
the fault that this makes. -/
inductive Source.BreaksOff (file : String) (text : List Char) : Source → Token.Fault → Prop where
  | foreign (c : Char) (rest : List Read) (cutOff : Option String) : 128 ≤ c.toNat →
    BreaksOff file text ⟨text.map .char ++ .char c :: rest, cutOff⟩
      (.foreign c (.behind file text))
  | failure (reason : String) (rest : List Read) (cutOff : Option String) :
    BreaksOff file text ⟨text.map .char ++ .failure reason :: rest, cutOff⟩
      (.unreadable reason (.atEnd file text))
  | cutOff (reason : String) :
    BreaksOff file text ⟨text.map .char, some reason⟩ (.unreadable reason (.atEnd file text))

/-- What stands behind the text in such a source. -/
theorem Source.BreaksOff.exists_tail {file : String} {text : List Char} {source : Source}
    {fault : Token.Fault} (h : source.BreaksOff file text fault) :
    ∃ tail, ({ file, source } : Scanner) = Scanner.followedBy { file, source := .ofList text } tail ∧
      Scanner.Breaks tail (.within file text []) fault := by
  cases h with
  | foreign c rest cutOff other =>
    refine ⟨⟨.char c :: rest, cutOff⟩, rfl, fun d => ?_⟩
    have place : ((Scanner.within file text []).passing c rest).here = .behind file text := by
      have moved : (Scanner.within file text [c]).here = .behind file text :=
        Scanner.here_within_cons
      rcases text.eq_nil_or_concat' with rfl | ⟨front, e, rfl⟩
      · rfl
      · rw [← moved]
        by_cases broken : e = '\n' <;>
          simp [Scanner.within, Scanner.having, Scanner.passing, Scanner.here, broken,
            Nat.add_assoc]
    rw [← place]
    exact ⟨_, if_neg (Nat.not_lt.mpr other)⟩
  | failure reason rest cutOff =>
    refine ⟨⟨.failure reason :: rest, cutOff⟩, rfl, fun d => ?_⟩
    rw [← Scanner.here_within_nil]
    exact ⟨_, rfl⟩
  | cutOff reason =>
    refine ⟨⟨[], some reason⟩, ?_, fun d => ?_⟩
    · simp [Scanner.followedBy, Source.ofList]
    · rw [← Scanner.here_within_nil]
      exact ⟨_, rfl⟩

/-- The token ends in front of a position of its text, with at least one character in between. -/
def Token.endsBefore (position : Nat) (t : Token) : Bool :=
  t.location.any fun l => decide (l.offset + (t.lexeme.length : Int) ≤ position)

theorem Token.endsBefore_ofWord (file : String) (before w rest : List Char) :
    (ofWord w (.behind file before)).endsBefore (before ++ w ++ rest).length =
      decide (rest ≠ []) := by
  have more : rest ≠ [] ↔ 0 < rest.length := List.length_pos_iff.symm
  simp only [endsBefore, location_ofWord, lexeme_ofWord, Option.any_some, Location.behind,
    List.length_append, String.length_ofList, more, decide_eq_decide]
  omega

/-- The tokens of the rest of a text with at least one more character behind them. -/
def earlyFrom (file : String) (before cs : List Char) : List Token :=
  (tokensFrom file before cs).filter (Token.endsBefore (before ++ cs).length)

section
variable {file : String} {before cs gap rest : List Char} {c : Char}

theorem earlyFrom_nil (found : layout false cs = (gap, [])) : earlyFrom file before cs = [] := by
  rw [earlyFrom, tokensFrom_nil found, List.filter_nil]

theorem earlyFrom_cons (found : layout false cs = (gap, c :: rest)) :
    earlyFrom file before cs =
      if (c :: rest).drop (word (c :: rest)).length = [] then []
      else
        .ofWord (word (c :: rest)) (.behind file (before ++ gap)) ::
          earlyFrom file (before ++ gap ++ word (c :: rest))
            ((c :: rest).drop (word (c :: rest)).length) := by
  have whole := append_behind_word found before
  have ends := Token.endsBefore_ofWord file (before ++ gap) (word (c :: rest))
    ((c :: rest).drop (word (c :: rest)).length)
  rw [whole] at ends
  rw [earlyFrom, tokensFrom_cons found, List.filter_cons, ends, earlyFrom, whole]
  by_cases last : (c :: rest).drop (word (c :: rest)).length = []
  · rw [last, tokensFrom_nil rfl, if_pos rfl, if_neg (by simp), List.filter_nil]
  · rw [if_neg last, if_pos (decide_eq_true last)]

/-- The tokens that end early enough come first. -/
theorem exists_late (file : String) (before cs : List Char) :
    ∃ late, tokensFrom file before cs = earlyFrom file before cs ++ late := by
  fun_induction tokensFrom file before cs with
  | case1 before cs gap found => exact ⟨[], by rw [earlyFrom_nil found, List.append_nil]⟩
  | case2 before cs gap c rest found _ ih =>
    obtain ⟨late, parts⟩ := ih
    rw [earlyFrom_cons found]
    split
    · exact ⟨_, rfl⟩
    · exact ⟨late, congrArg _ parts⟩

end

/-- What is scanned of a text that breaks off: the tokens that end early enough, and then the
fault. -/
theorem Scanner.exists_gives_of_breaks {file : String} {before cs : List Char} {s : Scanner}
    {tail : Source} {fault : Token.Fault} (text : s.InText) (pending : s.pending ≠ none)
    (here : next s = next (within file before cs)) (ascii : IsAscii cs)
    (breaks : Breaks tail (within file (before ++ cs) []) fault) :
    ∃ u t, (s.followedBy tail).Gives (earlyFrom file before cs) u ∧ next u = .error fault t := by
  fun_induction tokensFrom file before cs generalizing s with
  | case1 before cs gap found =>
    rw [next_within_nil ascii found] at here
    cases (foresees_next text : Foresees tail next _) with
    | ended _ none => exact absurd none pending
    | inside _ _ _ _ more run =>
      cases here.symm.trans run
      exact absurd rfl more
    | reached _ _ _ _ _ run broken =>
      cases here.symm.trans run
      have ended := append_of_layout found
      rw [List.append_nil] at ended
      obtain ⟨t, failed⟩ := broken fault (ended ▸ breaks)
      rw [earlyFrom_nil found]
      exact ⟨_, t, .nil, failed⟩
  | case2 before cs gap c rest found _ ih =>
    rw [next_within_cons ascii found] at here
    rw [earlyFrom_cons found]
    have whole := append_behind_word found before
    cases (foresees_next text : Foresees tail next _) with
    | ended _ none => exact absurd none pending
    | inside _ u _ text' more run there =>
      cases here.symm.trans run
      have left : (c :: rest).drop (word (c :: rest)).length ≠ [] := fun last =>
        more (List.head?_eq_none_iff.mpr last)
      obtain ⟨u, t, gives, failed⟩ := ih text' more rfl (ascii.behind_word found)
        (whole.symm ▸ breaks)
      rw [if_neg left]
      exact ⟨u, t, .cons there (Token.kind_ofWord (word_ne_nil c rest) _) gives, failed⟩
    | reached _ _ _ _ none run broken =>
      cases here.symm.trans run
      have last : (c :: rest).drop (word (c :: rest)).length = [] := List.head?_eq_none_iff.mp none
      rw [last, List.append_nil] at whole
      rw [last, whole] at broken
      obtain ⟨t, failed⟩ := broken fault breaks
      rw [if_pos last]
      exact ⟨_, t, .nil, failed⟩

namespace Feed

/-- Scans of which the first meets a fault. -/
inductive Meets (fault : Token.Fault) : List Scanned → Ending → Prop where
  | once (more : List Scanned) (ending : Ending) : Meets fault (.error fault :: more) ending
  | always : Meets fault [] (.broken fault)

variable {file : String} {before cs : List Char} {s t : Scanner} {fault : Token.Fault}

/-- What has been scanned stays in front. -/
theorem exists_unroll (earlier : List Scanned) (s : Scanner) :
    ∃ more ending, unroll earlier s = (earlier.reverse ++ more, ending) := by
  fun_induction unroll earlier s with
  | case1 => exact ⟨[], _, by rw [List.append_nil]⟩
  | case2 _ _ t _ _ _ _ ih | case3 _ _ t _ _ _ ih =>
    obtain ⟨more, ending, whole⟩ := ih
    exact ⟨_, ending, by rw [whole, List.reverse_cons, List.append_assoc]⟩
  | case4 => exact ⟨[], _, by rw [List.append_nil]⟩

theorem unroll_of_fault (h : Scanner.next s = .error fault t) (earlier : List Scanned) :
    ∃ more ending, unroll earlier s = (earlier.reverse ++ more, ending) ∧
      Meets fault more ending := by
  rw [unroll]
  split
  · rename_i given
    cases h.symm.trans given
  · rename_i failed
    cases h.symm.trans failed
    split
    · obtain ⟨more, ending, whole⟩ := exists_unroll (.error fault :: earlier) t
      refine ⟨.error fault :: more, ending, ?_, .once more ending⟩
      rw [whole, List.reverse_cons, List.append_assoc, List.singleton_append]
    · exact ⟨[], .broken fault, by rw [List.append_nil], .always⟩

theorem unroll_of_gives {ts : List Token} (h : s.Gives ts t) (earlier : List Scanned) :
    unroll earlier s = unroll ((ts.map .ok).reverse ++ earlier) t := by
  induction h generalizing earlier with
  | nil => rfl
  | cons given more _ ih =>
    rw [unroll_of_token given more, ih, List.map_cons, List.reverse_cons, List.append_assoc]
    rfl

/-- **The feed of a source that breaks off** has the tokens of its text that end early enough,
and then it meets the fault. -/
theorem exists_ofSource_of_breaksOff {source : Source} (ascii : IsAscii cs)
    (h : source.BreaksOff file cs fault) :
    ∃ more ending, ofSource file source =
        { ahead := (earlyFrom file [] cs).map .ok ++ more, ending } ∧ Meets fault more ending := by
  obtain ⟨tail, start, breaks⟩ := h.exists_tail
  obtain ⟨u, t, gives, failed⟩ := Scanner.exists_gives_of_breaks (Scanner.inText_ofList file ascii)
    nofun (Scanner.next_start ascii) ascii breaks
  obtain ⟨more, ending, scans, meets⟩ := unroll_of_fault failed _
  have unrolled := (unroll_of_gives gives []).trans scans
  refine ⟨more, ending, ?_, meets⟩
  simp only [ofSource, ofLexer, Lexer.ofSource, start, unrolled, List.append_nil, List.reverse_reverse]

end Feed

end Reckoner

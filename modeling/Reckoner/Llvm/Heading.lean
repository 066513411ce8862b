import Reckoner.Llvm.Layout
import Reckoner.Text.Quoted

/-! The heading of a module's text.

The text of a module starts with a comment that holds the module's name between
quotes, and the name is not escaped. So only its first line is part of the comment;
what follows a line break is read as text. Before the functions there may be blanks,
comments, and settings of the source's file name and of the target, and `isHeading`
tells whether a text holds nothing else. Of several layouts of data the last one
counts, and it has to be one. -/
namespace Reckoner.Llvm.Heading

/-- What a heading is made of, besides blanks and comments. -/
inductive Part where
  | word (letters : List Char)
  | equals
  | text (content : List Char)
deriving Repr, DecidableEq

/-- Where a reader of a heading is. -/
inductive Mode where
  | between
  /-- In a comment that ends with its line. -/
  | remark
  /-- Behind the stroke that starts a comment over several lines. -/
  | stroke
  /-- In a comment over several lines. -/
  | block
  /-- In such a comment, behind a star. -/
  | star
  /-- In a text between quotes, with its characters so far in reverse. -/
  | quoted (characters : List Char)
  /-- In a word, with its letters so far in reverse. -/
  | word (letters : List Char)
deriving Repr, DecidableEq

def isBreak (c : Char) : Bool :=
  c = '\n' || c = '\r'

def isBlank (c : Char) : Bool :=
  c = ' ' || c = '\t' || isBreak c

def isLetter (c : Char) : Bool :=
  c.isAlphanum || c = '_'

/-- The value of a hexadecimal digit. -/
def hexDigit? (c : Char) : Option Nat :=
  if c.isDigit then some (c.toNat - '0'.toNat)
  else if 'a' ≤ c.toLower && c.toLower ≤ 'f' then some (c.toLower.toNat - 'a'.toNat + 10)
  else none

/-- What a text between quotes stands for: a backslash before another one or before
the two digits of a character is not part of it. -/
def unescaped : List Char → List Char
  | '\\' :: '\\' :: rest => '\\' :: unescaped rest
  | '\\' :: a :: b :: rest =>
    match hexDigit? a, hexDigit? b with
    | some x, some y => Char.ofNat (16 * x + y) :: unescaped rest
    | _, _ => '\\' :: unescaped (a :: b :: rest)
  | c :: rest => c :: unescaped rest
  | [] => []

/-- The mode behind a character that stands between parts, and the part that it is. -/
def start (c : Char) : Option (Mode × List Part) :=
  if isBlank c then some (.between, [])
  else if c = ';' then some (.remark, [])
  else if c = '/' then some (.stroke, [])
  else if c = '"' then some (.quoted [], [])
  else if c = '=' then some (.between, [.equals])
  else if c.isAlpha || c = '_' then some (.word [c], [])
  else none

/-- The mode behind a character, and the parts that end there. -/
def step (m : Mode) (c : Char) : Option (Mode × List Part) :=
  match m with
  | .between => start c
  | .remark => some (if isBreak c then .between else .remark, [])
  | .stroke => if c = '*' then some (.block, []) else none
  | .block => some (if c = '*' then .star else .block, [])
  -- The character behind a star is taken with it.
  | .star => some (if c = '/' then .between else .block, [])
  | .quoted characters =>
    some (if c = '"' then (.between, [.text (unescaped characters.reverse)])
      else (.quoted (c :: characters), []))
  | .word letters =>
    if isLetter c then some (.word (c :: letters), [])
    else (start c).map fun (m, parts) => (m, .word letters.reverse :: parts)

/-- The parts of a text, if it consists of parts. -/
def parts? (m : Mode) : List Char → Option (List Part)
  | [] =>
    match m with
    | .between | .remark => some []
    | .word letters => some [.word letters.reverse]
    | .stroke | .block | .star | .quoted _ => none
  | c :: rest =>
    (step m c).bind fun (m, found) => (parts? m rest).map (found ++ ·)

/-- Parts that are settings, one behind another, after the last of which the layout of
data is one. -/
def areSettings (layout : List Char) : List Part → Bool
  | [] => Layout.isLayout layout
  | .word key :: .equals :: .text _ :: rest =>
    key = "source_filename".toList && areSettings layout rest
  | .word target :: .word key :: .equals :: .text content :: rest =>
    target = "target".toList &&
      if key = "triple".toList then areSettings layout rest
      else key = "datalayout".toList && areSettings content rest
  | _ => false

/-- A text that can stand before the functions of a module. -/
def isHeading (s : List Char) : Bool :=
  (parts? .between s).any (areSettings [])

/-- A comment goes on to the next line break. -/
theorem parts?_remark {s : List Char} (h : ∀ c ∈ s, isBreak c = false) (rest : List Char) :
    parts? .remark (s ++ '\n' :: rest) = parts? .between rest := by
  induction s with
  | nil => simp [parts?, step, isBreak]
  | cons c s ih =>
    have here := h c List.mem_cons_self
    simp [parts?, step, here, ih fun d hd => h d (List.mem_cons_of_mem c hd)]

end Reckoner.Llvm.Heading

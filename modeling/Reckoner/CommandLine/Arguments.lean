import Reckoner.CommandLine.Numeral
import Reckoner.Session.Options

/-! The arguments of the command line.

A flag may be shortened to any beginning that no other flag shares, and a value may
follow it after an equals sign. Words after a double dash are sources whatever they
look like. All words are told apart before any is taken, so that a beginning shared
by several flags is refused wherever it stands. Then they are taken from left to
right; there is at most one source, and it has to be readable at once. Words that
mean nothing are refused at the end, so that a request for help or for the version
still counts. A double dash does not count as a value, so the level is left without
number where one is joined to its flag, unless a later one has it. -/
namespace Reckoner.CommandLine

inductive Flag where
  | help
  | showIR
  | showParse
  | dumpModule
  | noPrompt
  | level
  | version
deriving Repr, DecidableEq

/-- The spellings of the flags. -/
def spellings : List (String × Flag) :=
  [("-h", .help), ("--help", .help), ("--print-ir", .showIR), ("--print-parse", .showParse),
    ("--dump-module", .dumpModule), ("--no-prompt", .noPrompt), ("--opt-level", .level),
    ("--version", .version)]

/-- What a session is asked to do. -/
structure Arguments where
  /-- The source to read; none stands for the standard input. -/
  source : Option String := none
  options : Session.Options := {}
  dumps : Bool := false
deriving Repr, DecidableEq

/-- What the arguments come to. -/
inductive Request where
  | session (a : Arguments)
  /-- A session at a level that has no number. -/
  | noLevel
  | help
  | version
  | refused
deriving Repr, DecidableEq

/-- What a word is. -/
inductive Word where
  | plain (text : String)
  | separator
  /-- A flag, with the text joined to it. -/
  | flag (f : Flag) (joined : Option String)
  /-- Letters joined to the short flag for help. -/
  | letters (joined : List Char)
  /-- The beginning of several flags. -/
  | ambiguous
  | unknown
deriving Repr, DecidableEq

/-- A text before and behind its first equals sign. -/
def splitEquals (s : List Char) : List Char × Option String :=
  (s.takeWhile (· ≠ '='),
    match s.dropWhile (· ≠ '=') with
    | [] => none
    | _ :: rest => some (String.ofList rest))

/-- A word that looks like a negative number; a line break may stand at its end. -/
def isNegativeNumber (s : List Char) : Bool :=
  match s with
  | '-' :: rest =>
    let body := if rest.getLast? = some '\n' then rest.dropLast else rest
    match body.dropWhile Text.isDigit with
    | [] => !body.isEmpty
    | '.' :: fraction => !fraction.isEmpty && fraction.all Text.isDigit
    | _ => false
  | _ => false

/-- A word with one or two dashes that spells no flag in full. -/
def abbreviated (s : List Char) : Word :=
  match s with
  | '-' :: 'h' :: '=' :: letters | '-' :: 'h' :: letters => .letters letters
  | '-' :: '-' :: _ =>
    let (name, joined) := splitEquals s
    match spellings.lookup (String.ofList name), joined with
    | some f, some text => .flag f (some text)
    | _, _ =>
      match spellings.filter fun e => name.isPrefixOf e.1.toList with
      | [] => other s
      | [(_, f)] => .flag f joined
      | _ => .ambiguous
  | _ => other s
where
  /-- A word that begins no flag. -/
  other (s : List Char) : Word :=
    if isNegativeNumber s || s.contains ' ' then .plain (String.ofList s) else .unknown

/-- Tells what a word is. -/
def Word.ofString (s : String) : Word :=
  if s = "--" then .separator
  else
    match spellings.lookup s with
    | some f => .flag f none
    | none =>
      match s.toList with
      | '-' :: c :: rest => abbreviated ('-' :: c :: rest)
      | _ => .plain s

/-- The words as they are taken: after a separator all are plain. -/
def words : List String → List Word
  | [] => []
  | s :: rest =>
    match Word.ofString s with
    | .separator => .separator :: rest.map .plain
    | w => w :: words rest

/-- The arguments taken so far. -/
structure Taken where
  arguments : Arguments := {}
  /-- The source has been given. -/
  hasSource : Bool := false
  /-- The last level has no number. -/
  lacksLevel : Bool := false
  /-- A word has been met that means nothing. -/
  hasExtra : Bool := false
deriving Repr

/-- Sets a flag that takes no value. -/
def Arguments.set (a : Arguments) : Flag → Arguments
  | .showIR => { a with options := { a.options with showsIR := true } }
  | .showParse => { a with options := { a.options with showsParse := true } }
  | .dumpModule => { a with dumps := true }
  | .noPrompt => { a with options := { a.options with prompts := false } }
  | .help | .level | .version => a

/-- Sets the level that a text denotes. -/
def Taken.setLevel (t : Taken) (text : String) : Option Taken :=
  if text = "--" then some { t with lacksLevel := true }
  else
    (wholeNumber? text).bind fun n =>
      (t.arguments.options.withLevel n).toOption.map fun options =>
        { t with arguments := { t.arguments with options }, lacksLevel := false }

/-- The request once all words have been taken. -/
def Taken.request (t : Taken) : Request :=
  if t.hasExtra then .refused else if t.lacksLevel then .noLevel else .session t.arguments

/-- A source that can be read: the standard input is written as a dash. -/
def isReadable (readable : String → Bool) (source : String) : Bool :=
  source = "-" || readable source

/-- Takes words from left to right. -/
def take (readable : String → Bool) (t : Taken) : List Word → Request
  | [] => t.request
  | .plain source :: rest =>
    if t.hasSource then take readable { t with hasExtra := true } rest
    else if !isReadable readable source then .refused
    else
      let t := { t with
        hasSource := true
        arguments := { t.arguments with source := if source = "-" then none else some source } }
      match rest with
      -- A separator right behind the source belongs to it.
      | .separator :: rest => take readable t rest
      | rest => take readable t rest
  | .separator :: rest => take readable { t with hasExtra := t.hasExtra || t.hasSource } rest
  | .ambiguous :: _ => .refused
  | .unknown :: rest => take readable { t with hasExtra := true } rest
  | .flag .level (some text) :: rest =>
    match t.setLevel text with
    | some t => take readable t rest
    | none => .refused
  | .flag .level none :: .plain text :: rest =>
    match t.setLevel text with
    | some t => take readable t rest
    | none => .refused
  | .flag .level none :: _ => .refused
  -- Each letter is a short flag of its own, and there is one such flag.
  | .letters joined :: _ => if !joined.isEmpty && joined.all (· = 'h') then .help else .refused
  | .flag _ (some _) :: _ => .refused
  | .flag .help none :: _ => .help
  | .flag .version none :: _ => .version
  | .flag f none :: rest => take readable { t with arguments := t.arguments.set f } rest

/-- What a list of arguments asks for, where `readable` tells which sources can be read. -/
def request (readable : String → Bool) (arguments : List String) : Request :=
  let words := words arguments
  if words.contains .ambiguous then .refused else take readable {} words

end Reckoner.CommandLine

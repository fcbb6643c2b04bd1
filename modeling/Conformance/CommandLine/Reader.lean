import Conformance.CommandLine

/-! # Reading command lines

Words are read from the left. An option with a value takes it from the same word or from the next
one; a value is checked when the next word is reached that is not part of it, so an earlier fault is
reported before a later one. After two dashes every word is a plain word.
-/

namespace Conformance.CommandLine

inductive Opt where
  | verbose | help | version
  | config | interpreter | arg | language | root | perDirectory | suite
  | jobs | timeout | format
deriving DecidableEq, Repr

inductive Level where
  | top | run | parse | list
deriving DecidableEq, Repr

def sourceOptions : List Opt :=
  [.config, .interpreter, .arg, .language, .root, .perDirectory, .suite]

def Level.options : Level → List Opt
  | .top => [.verbose, .help, .version]
  | .run => sourceOptions ++ [.jobs, .timeout, .format, .verbose, .help]
  | .parse => [.language, .config, .verbose, .help]
  | .list => sourceOptions ++ [.verbose, .help]

namespace Opt

def name : Opt → String
  | .verbose => "verbose"
  | .help => "help"
  | .version => "version"
  | .config => "config"
  | .interpreter => "interpreter"
  | .arg => "arg"
  | .language => "language"
  | .root => "root"
  | .perDirectory => "per-directory"
  | .suite => "suite"
  | .jobs => "jobs"
  | .timeout => "timeout"
  | .format => "format"

def letter? : Opt → Option Char
  | .verbose => some 'v'
  | .help => some 'h'
  | .version => some 'V'
  | .jobs => some 'j'
  | _ => none

def takesValue : Opt → Bool
  | .verbose | .help | .version | .perDirectory => false
  | _ => true

/-- Whether the next word is the value of an option even if it starts with a dash. -/
def takesAnyWord : Opt → Bool
  | .arg => true
  | _ => false

end Opt

def Level.named? (level : Level) (name : String) : Option Opt :=
  level.options.find? fun o => o.name = name

def Level.lettered? (level : Level) (letter : Char) : Option Opt :=
  level.options.find? fun o => o.letter? = some letter

structure Given where
  /-- How often logging was raised, if at all; at most 255 counts. -/
  verbose : Option Nat := none
  source : SuiteSource := {}
  jobs : Option Nat := none
  timeout : Option Nat := none
  format : Option ReportFormat := none
  fixture : Option String := none
deriving DecidableEq, Repr

def maxNumber : Nat := 18446744073709551615

def number? (text : String) : Option Nat :=
  let digits := match text.toList with
    | '+' :: rest => rest
    | chars => chars
  if digits.isEmpty || !digits.all Char.isDigit then none
  else (some (digits.foldl (fun n c => n * 10 + (c.toNat - 48)) 0)).filter (· ≤ maxNumber)

def format? (text : String) : Option ReportFormat :=
  if text = "text" then some .text else if text = "json" then some .json else none

def once {α : Type} (old : Option α) (error : UsageError) (value : Option α) :
    Except UsageError (Option α) :=
  match old, value with
  | some _, _ => .error .repeatedOption
  | none, none => .error error
  | none, some value => .ok (some value)

def path? (text : String) : Option String := if text = "" then none else some text

namespace Given

def accept (g : Given) (o : Opt) (value : String) : Except UsageError Given :=
  match o with
  | .config => do
    let config ← once g.source.config .invalidValue (path? value)
    return { g with source := { g.source with config } }
  | .interpreter => do
    let interpreter ← once g.source.interpreter .invalidValue (some value)
    return { g with source := { g.source with interpreter } }
  | .arg => .ok { g with source := { g.source with args := g.source.args ++ [value] } }
  | .language => do
    let language ← once g.source.language .invalidValue (some value)
    return { g with source := { g.source with language } }
  | .root => do
    let root ← once g.source.root .invalidValue (path? value)
    return { g with source := { g.source with root } }
  | .suite => .ok { g with source := { g.source with suites := g.source.suites ++ [value] } }
  | .jobs => do return { g with jobs := ← once g.jobs .malformedNumber (number? value) }
  | .timeout => do return { g with timeout := ← once g.timeout .malformedNumber (number? value) }
  | .format => do return { g with format := ← once g.format .invalidValue (format? value) }
  | .verbose | .help | .version | .perDirectory => .error .unwantedValue

def raise (g : Given) : Opt → Except UsageError Given
  | .verbose => .ok { g with verbose := some (min 255 (g.verbose.getD 0 + 1)) }
  | .help => .error .helpAsked
  | .version => .error .versionAsked
  | .perDirectory =>
    if g.source.perDirectory then .error .repeatedOption
    else .ok { g with source := { g.source with perDirectory := true } }
  | _ => .error .invalidValue

end Given

/-- What was read last and is not taken over yet. -/
inductive Pending where
  | nothing
  | awaiting (o : Opt)
  | valued (o : Opt) (value : String)
  | fixture (path : String)
deriving DecidableEq, Repr

structure State where
  given : Given := {}
  pending : Pending := .nothing
  plain : Bool := false
deriving DecidableEq, Repr

namespace State

def settle (s : State) : Except UsageError State :=
  match s.pending with
  | .nothing => .ok s
  | .awaiting _ => .error .invalidValue
  | .valued o value => do return { s with given := ← s.given.accept o value, pending := .nothing }
  | .fixture path =>
    if path = "" then .error .invalidValue
    else .ok { s with given := { s.given with fixture := some path }, pending := .nothing }

def attach (s : State) (o : Opt) (value : String) : Except UsageError State := do
  let s ← s.settle
  return { s with given := ← s.given.accept o value }

def await (s : State) (o : Opt) : Except UsageError State := do
  return { ← s.settle with pending := .awaiting o }

def raise (s : State) (o : Opt) : Except UsageError State := do
  let s ← s.settle
  return { s with given := ← s.given.raise o }

/-- Reads a word that is neither option nor value. Only a fixture is given that way. -/
def plainWord (level : Level) (s : State) (word : String) : Except UsageError State :=
  match level with
  | .parse =>
    if s.given.fixture.isSome || (match s.pending with | .fixture _ => true | _ => false) then
      .error .unknownArgument
    else do return { ← s.settle with pending := .fixture word }
  | .top => .error .invalidCommand
  | _ => .error .unknownArgument

/-- Reads an option after two dashes: its name, and a value after an equals sign. -/
def longOption (level : Level) (s : State) (text : List Char) : Except UsageError State :=
  match level.named? (String.ofList (text.takeWhile (· ≠ '='))) with
  | none => .error .unknownArgument
  | some o =>
    match text.dropWhile (· ≠ '=') with
    | [] => if o.takesValue then s.await o else s.raise o
    | _ :: value => if o.takesValue then s.attach o (String.ofList value) else .error .unwantedValue

/-- Reads the letters after one dash. A letter with a value takes the rest of the word. -/
def letters (level : Level) (s : State) : List Char → Except UsageError State
  | [] => .ok s
  | c :: rest =>
    match level.lettered? c with
    | none => .error .unknownArgument
    | some o =>
      if o.takesValue then
        match rest with
        | [] => s.await o
        | '=' :: value => s.attach o (String.ofList value)
        | value => s.attach o (String.ofList value)
      else do
        let s ← s.raise o
        letters level s rest

def word (level : Level) (s : State) (word : String) : Except UsageError State :=
  if s.plain then s.plainWord level word
  else
    match s.pending with
    | .awaiting o =>
      if o.takesAnyWord then .ok { s with pending := .valued o word }
      else
        match word.toList with
        | ['-', '-'] => .ok { s with plain := true }
        | '-' :: '-' :: text => s.longOption level text
        | '-' :: c :: text => s.letters level (c :: text)
        | _ => .ok { s with pending := .valued o word }
    | _ =>
      match word.toList with
      | ['-', '-'] => .ok { s with plain := true }
      | '-' :: '-' :: text => s.longOption level text
      | '-' :: c :: text => s.letters level (c :: text)
      | _ => s.plainWord level word

def words (level : Level) (s : State) : List String → Except UsageError State
  | [] => s.settle
  | w :: rest => do
    let s ← s.word level w
    words level s rest

end State

def level? (name : String) : Option Level :=
  if name = "run" then some .run
  else if name = "parse" then some .parse
  else if name = "list" then some .list
  else none

def command (level : Level) (g : Given) : Except UsageError Command :=
  match level with
  | .run => .ok (.run g.source g.jobs g.timeout (g.format.getD .text))
  | .list => .ok (.list g.source)
  | .parse =>
    match g.fixture with
    | some fixture => .ok (.parse fixture g.source.language g.source.config)
    | none => .error .missingFixture
  | .top => .error .missingCommand

def help : List String → UsageError
  | [] => .helpAsked
  | [name] => if (level? name).isSome || name = "help" then .helpAsked else .invalidCommand
  | _ => .invalidCommand

/-- Reads the words up to the command, and all words after it. The count of the part that raises
logging last is the one that counts. -/
def readTop (s : State) : List String → Except UsageError Invocation
  | [] => do
    let s ← s.settle
    if s.given = {} then .error .nothingGiven else .error .missingCommand
  | w :: rest =>
    if !s.plain && w = "help" then .error (help rest)
    else
      match if s.plain then none else level? w with
      | some level => do
        let s ← s.settle
        let after ← State.words level {} rest
        let command ← command level after.given
        return ⟨(after.given.verbose.or s.given.verbose).getD 0, command⟩
      | none =>
        if s.plain && ((level? w).isSome || w = "help") then .error .unknownArgument
        else do
          let s ← s.word .top w
          readTop s rest

def read (words : List String) : Except UsageError Invocation := readTop {} words

end Conformance.CommandLine

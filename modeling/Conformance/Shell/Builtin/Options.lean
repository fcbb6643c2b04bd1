import Conformance.Shell.Field
import Conformance.Shell.Script

/-! # Options

The options of utilities, and those of the shell itself.
-/

namespace Conformance.Shell

open Conformance.System

abbrev Given := Char × Option String

/-- Reads the letters of one argument. The answer is the options, newest first, and the arguments
that are left. -/
def readLetters (known : List (Char × Bool)) : List Char → List String → List Given →
    Run (List Given × List String)
  | [], args, given => return (given, args)
  | c :: letters, args, given => do
    match known.find? fun entry => entry.1 = c with
    | none => fail ("Illegal option -" ++ String.singleton c)
    | some (_, false) => readLetters known letters args ((c, none) :: given)
    | some (_, true) =>
      match letters, args with
      | [], [] => fail ("No arg for -" ++ String.singleton c ++ " option")
      | [], value :: args => return ((c, some value) :: given, args)
      | letters, args => return ((c, some (String.ofList letters)) :: given, args)

def readGiven (known : List (Char × Bool)) : Nat → List String → List Given →
    Run (List Given × List String)
  | 0, args, given => return (given.reverse, args)
  | fuel + 1, args, given => do
    match args with
    | [] => return (given.reverse, [])
    | arg :: rest =>
      match arg.toList with
      | ['-', '-'] => return (given.reverse, rest)
      | '-' :: c :: letters =>
        let (given, rest) ← readLetters known (c :: letters) rest given
        readGiven known fuel rest given
      | _ => return (given.reverse, arg :: rest)

/-- The options in front of arguments, and the arguments after them. A colon follows the letter of an
option that takes a value. -/
def optionsOf (known : String) (args : List String) : Run (List Given × List String) :=
  readGiven (letters known.toList) (args.length + 1) args []
where
  letters : List Char → List (Char × Bool)
    | c :: ':' :: rest => (c, true) :: letters rest
    | c :: rest => (c, false) :: letters rest
    | [] => []

def firstOption? (known : List Char) (args : List String) : Run (Option Char × List String) := do
  match args with
  | [] => return (none, [])
  | arg :: rest =>
    match arg.toList with
    | ['-', '-'] => return (none, rest)
    | '-' :: c :: _ =>
      if known.contains c then return (some c, rest)
      else fail ("Illegal option -" ++ String.singleton c)
    | _ => return (none, args)

def lastOption (given : List Given) : Option Char := given.getLast?.map Prod.fst

/-! ## Options of the shell -/

def setLetter (on : Bool) (letter : Char) : Run Unit := do
  match Setting.ofLetter? letter with
  | none => fail ("Illegal option -" ++ String.singleton letter)
  | some setting =>
    modify fun s => s.withSetting setting on
    if on && setting = .viKeys then modify fun s => s.withSetting .emacsKeys false
    if on && setting = .emacsKeys then modify fun s => s.withSetting .viKeys false

def showSettings (asCommands : Bool) : Run Unit := do
  let s ← get
  unless asCommands do say "Current option settings\n"
  for (setting, name, _) in Setting.table do
    let on := s.has setting
    if asCommands then say ("set " ++ (if on then "-o " else "+o ") ++ name ++ "\n")
    else
      let blanks := String.ofList (List.replicate (16 - name.length) ' ')
      say (name ++ blanks ++ (if on then "on" else "off") ++ "\n")

def setName (on : Bool) (name : String) : Run Unit := do
  match Setting.ofName? name with
  | some setting => modify fun s => s.withSetting setting on
  | none => fail ("Illegal option -o " ++ name)

def setLetters (on : Bool) : List Char → List String → Run (List String)
  | [], args => return args
  | 'o' :: letters, args => do
    match args with
    | [] => showSettings (!on)
    | name :: _ => setName on name
    setLetters on letters (args.drop 1)
  | c :: letters, args => do
    setLetter on c
    setLetters on letters args

def checkJobControl : Run Unit := do
  if (← get).has .jobControl then
    warn "can't access tty; job control turned off"
    modify fun s => s.withSetting .jobControl false

/-- What is to become of the parameters after options have been set. -/
def setOptions : Nat → List String → Run (Option (List String))
  | 0, _ => return none
  | fuel + 1, args => do
    match args with
    | [] => return none
    | arg :: rest =>
      match arg.toList with
      | ['-'] =>
        modify fun s => (s.withSetting .trace false).withSetting .echoInput false
        return if rest.isEmpty then none else some rest
      | ['-', '-'] => return some rest
      | '-' :: letters => setOptions fuel (← setLetters true letters rest)
      | '+' :: letters => setOptions fuel (← setLetters false letters rest)
      | _ => return some args

namespace Builtin

def options (args : List String) : Run Nat := do
  if args.isEmpty then showVariables "" fun v => v.value.isSome
  else
    let parameters ← setOptions (args.length + 1) args
    checkJobControl
    match parameters with
    | some parameters =>
      modify fun s => { s with parameters, optionIndex := 1, optionOffset := none }
    | none => pure ()
  return 0

end Builtin

end Conformance.Shell

import Conformance.Integer
import Conformance.Shell.Session

/-! # Variables of the shell

Variables have a value or none, can be handed on to programs, and can be protected from changes.
Functions and commands can have values of their own, which are put back at their end.
-/

namespace Conformance.Shell

open Conformance.System

def decimal? (text : String) : Option Int :=
  match Integer.read? true text.toList with
  | some (n, rest) =>
    if rest.all isBlank && Integer.least ≤ n && n ≤ Integer.greatest then some n else none
  | none => none

/-- The number that a text is; it is not negative and not too great. -/
def numberOf (text : String) : Run Nat := do
  match decimal? text with
  | some n =>
    if 0 ≤ n && n ≤ greatestNumber then return n.toNat else fail ("Illegal number: " ++ text)
  | none => fail ("Illegal number: " ++ text)

namespace Session

def variableNamed? (s : Session) (name : String) : Option Variable :=
  s.bindings.find? fun v => v.name = name

def valueOf? (s : Session) (name : String) : Option String :=
  (s.variableNamed? name).bind Variable.value

/-- The session with a variable, which comes first from now on. -/
def withVariable (s : Session) (v : Variable) : Session :=
  match s.bindings with
  | first :: rest =>
    if first.name = v.name then { s with bindings := v :: rest }
    else { s with bindings := v :: first :: rest.filter fun old => old.name ≠ v.name }
  | [] => { s with bindings := [v] }

def withoutVariable (s : Session) (name : String) : Session :=
  { s with bindings := s.bindings.filter fun old => old.name ≠ name }

/-- Whether a variable keeps what it is when it loses its value: one of the shell itself, or one that
a function has for itself. -/
def isKept (s : Session) (name : String) : Bool :=
  ["IFS", "MAIL", "MAILPATH", "PATH", "PS1", "PS2", "PS4", "OPTIND", "TERM", "HISTSIZE"].contains
      name ||
    s.locals.any fun scope => scope.any fun saved => match saved with
      | .binding local? _ => local? = name
      | .settings _ => false

def separators (s : Session) : List Char := ((s.valueOf? "IFS").getD " \t\n").toList

def searchPath (s : Session) : Option String := s.valueOf? "PATH"

def environment (s : Session) : Environment :=
  s.bindings.filterMap fun (v : Variable) =>
    if v.exported then v.value.map fun value => (v.name, value) else none

end Session

def noteValue (name value : String) : Run Unit := do
  if name = "PATH" then modify fun s => { s with remembered := [] }
  else if name = "OPTIND" then
    let n ← numberOf value
    modify fun s => { s with optionIndex := max n 1, optionOffset := none }

structure Change where
  exports : Bool := false
  protects : Bool := false
deriving DecidableEq, Repr

def change (name : String) (value : Option String) (c : Change) : Run Unit := do
  let s ← get
  let old := s.variableNamed? name
  if old.any Variable.readOnly then fail (name ++ ": is read only")
  if name = "PATH" || name = "OPTIND" then noteValue name (value.getD "")
  let exports := c.exports || s.has .exportAll
  let isDropped := value.isNone && !exports && !c.protects && !s.isKept name
  if isDropped then modify fun s => s.withoutVariable name
  else
    modify fun s => s.withVariable
      { name, value
        exported := exports || old.any Variable.exported
        readOnly := c.protects }

/-- Gives a variable a value, or takes it away, if it has the name of one. An equals sign ends the
name. -/
def setVariable (name : String) (value : Option String) (c : Change) : Run Unit := do
  let text := name.toList.takeWhile (· ≠ '=')
  if isName text then change (String.ofList text) value c
  else fail (String.ofList text ++ ": bad variable name")

def assign (name value : String) : Run Unit := setVariable name (some value) {}

def splitAssignment (text : String) : String × Option String :=
  let chars := text.toList
  let name := chars.takeWhile (· ≠ '=')
  match chars.drop name.length with
  | _ :: value => (String.ofList name, some (String.ofList value))
  | [] => (text, none)

/-! ## Values for a while -/

def openScope : Run Unit := modify fun s => { s with locals := [] :: s.locals }

def note (saved : Saved) : Run Unit := modify fun s => { s with
  locals := match s.locals with
    | scope :: outer => (saved :: scope) :: outer
    | [] => [] }

def makeLocal (name : String) (value : Option String) (c : Change) : Run Unit := do
  let old := (← get).variableNamed? name
  if old.isNone || value.isSome then setVariable name value c
  note (.binding name old)

def closeScope : Run Unit := do
  let s ← get
  let scope := s.locals.headD []
  set { s with locals := s.locals.drop 1 }
  for saved in scope do
    match saved with
    | .settings old => modify fun s => { s with settings := old }
    | .binding name none =>
      if name = "PATH" then noteValue name ""
      modify fun s => s.withoutVariable name
    | .binding name (some old) =>
      if name = "PATH" || name = "OPTIND" then noteValue name (old.value.getD "")
      modify fun s => s.withVariable old

/-! ## Showing variables -/

/-- A text between single quotes; single quotes in it stand between double quotes. -/
def quoted (text : String) : String :=
  let rec go : Nat → List Char → List Char
    | 0, _ => []
    | fuel + 1, rest =>
      let plain := rest.takeWhile (· ≠ '\'')
      let rest := rest.drop plain.length
      let marks := rest.takeWhile (· = '\'')
      let rest := rest.drop marks.length
      let shown := ('\'' :: plain) ++ ['\'']
      if marks.isEmpty then shown
      else
        let shown := shown ++ ('\"' :: marks) ++ ['\"']
        if rest.isEmpty then shown else shown ++ go fuel rest
  String.ofList (go (text.length + 1) text.toList)

def showVariables (start : String) (p : Variable → Bool) : Run Unit := do
  let chosen := ((← get).bindings.filter p).mergeSort fun a b => a.name ≤ b.name
  for v in chosen do
    let value := match v.value with
      | some value => "=" ++ quoted value
      | none => ""
    say ((if start.isEmpty then "" else start ++ " ") ++ v.name ++ value ++ "\n")

end Conformance.Shell

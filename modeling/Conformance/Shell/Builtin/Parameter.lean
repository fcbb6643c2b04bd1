import Conformance.Shell.Builtin.Options

/-! # Parameters and variables

The utilities of the shell itself that change parameters and variables.
-/

namespace Conformance.Shell.Builtin

open Conformance.System

def markOne (c : Change) (text : String) : Run Unit := do
  let (name, value) := splitAssignment text
  match value, (← get).variableNamed? name with
  | none, some old =>
    modify fun s => s.withVariable
      { old with
        exported := old.exported || c.exports
        readOnly := old.readOnly || c.protects }
  | _, _ => setVariable name value c

def mark (name : String) (c : Change) (args : List String) : Run Nat := do
  let (given, names) ← firstOption? ['p'] args
  if names.isEmpty || given.isSome then
    showVariables name fun v => (c.exports && v.exported) || (c.protects && v.readOnly)
  else names.forM (markOne c)
  return 0

def unset (args : List String) : Run Nat := do
  let (given, names) ← optionsOf "vf" args
  for name in names do
    if lastOption given = some 'f' then
      modify fun s => { s with functions := s.functions.filter fun f => f.1 ≠ name }
    else setVariable name none {}
  return 0

def local_ (args : List String) : Run Nat := do
  if (← get).depth = 0 then fail "not in a function"
  for text in args do
    if text = "-" then note (.settings (← get).settings)
    else
      let (name, value) := splitAssignment text
      makeLocal name value {}
  return 0

def shift (args : List String) : Run Nat := do
  let count ← match args with
    | [] => pure 1
    | arg :: _ => numberOf arg
  let s ← get
  if s.parameters.length < count then fail "can't shift that many"
  modify fun s => { s with
    parameters := s.parameters.drop count, optionIndex := 1, optionOffset := none }
  return 0

/-! ## Reading options -/

/-- The text that is read next: what is left of an argument, with the number of the argument after
it. -/
structure Cursor where
  text : List Char
  taken : Nat

def nextOption? (words : List String) (taken : Nat) (offset : Option Nat) : Nat × Option Cursor :=
  let before := (words[taken - 1]?.getD "").toList
  let open? := match offset with
    | some n => if 0 < taken && n < before.length then some (before.drop n) else none
    | none => none
  match open? with
  | some text => (taken, some ⟨text, taken⟩)
  | none =>
    match (words[taken]?.getD "").toList with
    | ['-', '-'] => (taken + 1, none)
    | '-' :: c :: text => (taken + 1, some ⟨c :: text, taken + 1⟩)
    | _ => (taken, none)

def isOption (c : Char) : List Char → Option Bool
  | [] => none
  | x :: ':' :: rest => if x = c then some true else isOption c rest
  | x :: rest => if x = c then some false else isOption c rest

def endOption (target : String) (letter : Char) (taken : Nat) (offset : Option Nat) :
    Run Unit := do
  assign "OPTIND" (toString (taken + 1))
  assign target (String.singleton letter)
  modify fun s => { s with optionIndex := taken + 1, optionOffset := offset }

def readOption (known target : String) (words : List String) : Run Nat := do
  let s ← get
  let quiet := known.toList.head? = some ':'
  let told (letter : Char) (text : String) : Run Unit := do
    if quiet then assign "OPTARG" (String.singleton letter)
    else
      tell (text ++ "\n")
      setVariable "OPTARG" none {}
  match nextOption? words (s.optionIndex - 1) s.optionOffset with
  | (taken, none) =>
    endOption target '?' taken none
    return 1
  | (_, some ⟨text, taken⟩) =>
    let c := text.headD '?'
    let rest := text.drop 1
    let size := (words[taken - 1]?.getD "").length
    match isOption c known.toList with
    | none =>
      told c ("Illegal option -" ++ String.singleton c)
      endOption target '?' taken (some (size - rest.length))
    | some false =>
      assign "OPTARG" ""
      endOption target c taken (some (size - rest.length))
    | some true =>
      if !rest.isEmpty then
        assign "OPTARG" (String.ofList rest)
        endOption target c taken none
      else match words[taken]? with
        | some value =>
          assign "OPTARG" value
          endOption target c (taken + 1) none
        | none =>
          told c ("No arg for -" ++ String.singleton c ++ " option")
          endOption target (if quiet then ':' else '?') taken none
    return 0

def getopts (args : List String) : Run Nat := do
  match args with
  | known :: target :: words =>
    let s ← get
    let words := if words.isEmpty then s.parameters else words
    if words.length + 1 < s.optionIndex then
      modify fun s => { s with optionIndex := 1, optionOffset := none }
    readOption known target words
  | _ => fail "Usage: getopts optstring var [arg...]"

end Conformance.Shell.Builtin

import Conformance.Shell.Redirecting

/-! # Finding commands

The name of a command is that of a function, of a utility of the shell itself, or of a program in one
of the directories of the search path. Where a program was found is remembered.
-/

namespace Conformance.Shell

open Conformance.System

structure OwnUtility where
  name : String
  /-- Whether it keeps the assignments before it, and its errors end the shell. -/
  isSpecial : Bool := false
  takesAssignments : Bool := false
deriving DecidableEq, Repr

def ownUtilities : List OwnUtility :=
  [{ name := ".", isSpecial := true }, { name := ":", isSpecial := true }, { name := "[" },
    { name := "alias", takesAssignments := true }, { name := "bg" },
    { name := "break", isSpecial := true }, { name := "cd" }, { name := "chdir" },
    { name := "command" }, { name := "continue", isSpecial := true }, { name := "echo" },
    { name := "eval", isSpecial := true }, { name := "exec", isSpecial := true },
    { name := "exit", isSpecial := true },
    { name := "export", isSpecial := true, takesAssignments := true }, { name := "false" },
    { name := "fg" }, { name := "getopts" }, { name := "hash" }, { name := "jobs" },
    { name := "kill" }, { name := "local", isSpecial := true, takesAssignments := true },
    { name := "printf" }, { name := "pwd" }, { name := "read" },
    { name := "readonly", isSpecial := true, takesAssignments := true },
    { name := "return", isSpecial := true }, { name := "set", isSpecial := true },
    { name := "shift", isSpecial := true }, { name := "test" },
    { name := "times", isSpecial := true }, { name := "trap", isSpecial := true },
    { name := "true" }, { name := "type" }, { name := "ulimit" }, { name := "umask" },
    { name := "unalias" }, { name := "unset", isSpecial := true }, { name := "wait" }]

def ownUtility? (name : String) : Option OwnUtility := ownUtilities.find? fun u => u.name = name

inductive Found where
  | function (body : Command)
  | own (u : OwnUtility)
  | program (index : Option Nat)
  | unknown

def usualPath : String := "/usr/sbin:/usr/bin:/sbin:/bin"

def colonParts : List Char → List (List Char)
  | [] => [[]]
  | ':' :: rest => [] :: colonParts rest
  | c :: rest =>
    match colonParts rest with
    | part :: parts => (c :: part) :: parts
    | [] => [[c]]

def pathsAlong (path : Option String) (name : String) : List String :=
  match path with
  | none => []
  | some path => (colonParts path.toList).map fun directory =>
    if directory.isEmpty then name else String.ofList directory ++ "/" ++ name

/-- The words for a program that cannot be run. -/
def execProblem : Error → String
  | .missing | .notDirectory => "not found"
  | e => e.message

def remembered? (s : Session) (name : String) : Option Remembered :=
  s.remembered.find? fun r => r.name = name

def remember (r : Remembered) : Run Unit := modify fun s =>
  let isKnown := s.remembered.any fun old => old.name = r.name
  { s with remembered :=
      if isKnown then s.remembered.map fun old => if old.name = r.name then r else old
      else s.remembered ++ [r] }

def forget (name : String) : Run Unit := modify fun s =>
  { s with remembered := s.remembered.filter fun old => old.name ≠ name }

/-- Looks for a program along paths with their numbers. What was found before is not looked at once
more. -/
def search (previous : Option Nat) : List (Nat × String) → Error → Run (Except Error Nat)
  | [], e => return .error e
  | (index, path) :: rest, e => do
    if path.startsWith "/" && previous.any (index ≤ ·) then
      if previous = some index then return .ok index else search previous rest e
    else
      match ← Run.call (.inspect path true) with
      | .error problem =>
        let isAbsence := problem = .missing || problem = .notDirectory
        search previous rest (if isAbsence then e else problem)
      | .ok info =>
        if info.kind = .regular then return .ok index else search previous rest .denied

structure Search where
  functions : Bool := true
  programs : Bool := true
  /-- Whether it is told that nothing was found. -/
  complains : Bool := false
  checks : Bool := false
  path : Option String := none
deriving DecidableEq, Repr

def findCommand (how : Search) (name : String) : Run Found := do
  let s ← get
  if name.toList.contains '/' then
    if how.checks then
      match ← Run.call (.inspect name true) with
      | .ok _ => return .program none
      | .error _ => return .unknown
    else return .program none
  else
    let known := if how.path.isNone && how.programs then remembered? s name else none
    match if how.functions then s.functions.find? fun f => f.1 = name else none with
    | some (_, body) => return .function body
    | none =>
      match known with
      | some ⟨_, index, false⟩ => return .program (some index)
      | _ =>
        match ownUtility? name with
        | some u => return .own u
        | none => if how.programs then lookAround s known else return .unknown
where
  lookAround (s : Session) (known : Option Remembered) : Run Found := do
    let paths := pathsAlong (if how.path.isSome then how.path else s.searchPath) name
    match ← search (known.map Remembered.index) ((List.range paths.length).zip paths) .missing with
    | .ok index =>
      if how.path.isNone then remember { name, index }
      return .program (some index)
    | .error e =>
      if known.isSome then forget name
      if how.complains then warn (name ++ ": " ++ execProblem e)
      return .unknown

def lookAhead (command : Command) : Run Unit := do
  match command with
  | .simple _ _ (word :: _) _ =>
    match Word.text? word with
    | some text =>
      if isName text then
        let _ ← findCommand {} (String.ofList text)
    | none => return
  | _ => return

/-! ## Becoming a program -/

def tryPaths (args : List String) (environment : Environment) : List String → Error → Run Error
  | [], e => return e
  | path :: rest, e => do
    let problem ← Run.lift (Action.exec path args environment)
    let isAbsence := problem = .missing || problem = .notDirectory
    tryPaths args environment rest (if isAbsence then e else problem)

def becomeProgram {α : Type} (path : Option String) (index : Nat) (args : List String) : Run α := do
  let s ← get
  let name := args.headD ""
  let e ← if name.toList.contains '/' then
      Run.lift (Action.exec name args s.environment)
    else tryPaths args s.environment ((pathsAlong path name).drop index) .missing
  let status := match e with
    | .missing | .notDirectory | .tooManyLinks | .nameTooLong => 127
    | _ => 126
  leave status .ended (name ++ ": " ++ execProblem e)

/-- The buckets of a table in order, with the names in each of them. -/
def bucketOf (size : Nat) (name : String) : Nat :=
  let codes := name.toList.map Char.toNat
  (codes.foldl (· + ·) (16 * codes.headD 0) % 0x8000) % size

def inBuckets {α : Type} (size : Nat) (name : α → String) (items : List α) : List α :=
  (List.range size).flatMap fun n => items.filter fun item => bucketOf size (name item) = n

end Conformance.Shell

import Conformance.Shell.Builtin.Options
import Conformance.Shell.Lookup

/-! # Names of commands

The utilities of the shell itself that give names to texts and tell what names mean.
-/

namespace Conformance.Shell

open Conformance.System

def shownAlias (name value : String) : String := name ++ "=" ++ quoted value ++ "\n"

def withAlias (entry : String × String) : List (String × String) → List (String × String)
  | [] => [entry]
  | old :: rest => if old.1 = entry.1 then entry :: rest else old :: withAlias entry rest

/-- How many buckets the table of aliases has, and that of commands. -/
def aliasBuckets : Nat := 39
def commandBuckets : Nat := 31

def pathAt (path : Option String) (index : Nat) (name : String) : String :=
  ((pathsAlong path name)[index]?).getD name

def describeFound (name : String) (path : Option String) (verbose remembered : Bool) :
    Found → Option String
  | .program none => some (if verbose then " is " ++ name else name)
  | .program (some index) =>
    let place := pathAt path index name
    some (if !verbose then place
      else if remembered then " is a tracked alias for " ++ place else " is " ++ place)
  | .function _ => some (if verbose then " is a shell function" else name)
  | .own u =>
    some (if !verbose then name
      else if u.isSpecial then " is a special shell builtin" else " is a shell builtin")
  | .unknown => none

def describe (name : String) (path : Option String) (verbose : Bool) : Run Nat := do
  let s ← get
  if verbose then say name
  if Token.keywords.contains name then
    say (if verbose then " is a shell keyword\n" else name ++ "\n")
    return 0
  else match s.aliases.find? fun entry => entry.1 = name with
    | some (_, value) =>
      say (if verbose then " is an alias for " ++ value ++ "\n"
        else "alias " ++ shownAlias name value)
      return 0
    | none =>
      let known := remembered? s name
      let found ← match known with
        | some r => pure (Found.program (some r.index))
        | none => findCommand { checks := true, path } name
      let along := if path.isSome then path else s.searchPath
      match describeFound name along verbose known.isSome found with
      | some text =>
        say (text ++ "\n")
        return 0
      | none =>
        if verbose then say ": not found\n"
        return 127

namespace Builtin

def alias_ (args : List String) : Run Nat := do
  if args.isEmpty then
    for (name, value) in inBuckets aliasBuckets Prod.fst (← get).aliases do
      say (shownAlias name value)
    return 0
  else go args 0
where
  go : List String → Nat → Run Nat
    | [], status => return status
    | arg :: rest, status => do
      let first := arg.toList.take 1
      let name := first ++ (arg.toList.drop 1).takeWhile (· ≠ '=')
      let s ← get
      if name.length = arg.length then
        match s.aliases.find? fun entry => entry.1 = arg with
        | some (name, value) =>
          say (shownAlias name value)
          go rest status
        | none =>
          tell ("alias: " ++ arg ++ " not found\n")
          go rest 1
      else
        let entry := (String.ofList name, String.ofList (arg.toList.drop (name.length + 1)))
        modify fun s => { s with aliases := withAlias entry s.aliases }
        go rest status

def unalias (args : List String) : Run Nat := do
  let (given, names) ← optionsOf "a" args
  if !given.isEmpty then
    modify fun s => { s with aliases := [] }
    return 0
  else go names 0
where
  go : List String → Nat → Run Nat
    | [], status => return status
    | name :: rest, status => do
      let s ← get
      if s.aliases.any fun entry => entry.1 = name then
        set { s with aliases := s.aliases.filter fun entry => entry.1 ≠ name }
        go rest status
      else
        tell ("unalias: " ++ name ++ " not found\n")
        go rest 1

def type (args : List String) : Run Nat := do
  let mut status := 0
  for name in args do
    let one ← describe name none true
    if one ≠ 0 then status := one
  return status

def command (args : List String) : Run Nat := do
  let (given, names) ← optionsOf "pvV" args
  let has (c : Char) : Bool := given.any fun option => option.1 = c
  match names with
  | name :: _ =>
    if has 'v' || has 'V' then
      describe name (if has 'p' then some usualPath else none) (has 'V')
    else return 0
  | [] => return 0

def hash (args : List String) : Run Nat := do
  let (given, names) ← optionsOf "r" args
  if !given.isEmpty then
    modify fun s => { s with remembered := [] }
    return 0
  else if names.isEmpty then
    let s ← get
    for r in inBuckets commandBuckets Remembered.name s.remembered do
      say (pathAt s.searchPath r.index r.name ++ (if r.stale then "*" else "") ++ "\n")
    return 0
  else
    let mut status := 0
    for name in names do
      forget name
      match ← findCommand { complains := true } name with
      | .unknown => status := 1
      | _ => pure ()
    return status

end Builtin

end Conformance.Shell

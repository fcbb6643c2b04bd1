import Conformance.Shell.Evaluation

/-! # Starting a shell

A shell reads its options, takes over the environment, and runs a text, a file or what it is given to
read.
-/

namespace Conformance.Shell

open Conformance.System

def firstBindings (environment : Environment) (parent : Nat) : List Variable :=
  let given := environment.filterMap fun (name, value) =>
    if isName name.toList then some ({ name, value := some value, exported := true } : Variable)
    else none
  let isGiven (name : String) : Bool := given.any fun v => v.name = name
  let usual : List (String × String) :=
    [("PATH", "/usr/local/sbin:/usr/local/bin:/usr/sbin:/usr/bin:/sbin:/bin"), ("PS1", "# "),
      ("PS2", "> "), ("PS4", "+ ")]
  let fixed : List (String × String) :=
    [("IFS", " \t\n"), ("OPTIND", "1"), ("PPID", toString parent)]
  let asVariable (entry : String × String) : Variable :=
    { name := entry.1, value := some entry.2,
      exported := entry.1 ≠ "PPID" && isGiven entry.1 }
  let isFixed (v : Variable) : Bool := fixed.any fun entry => entry.1 = v.name
  (given.filter fun v => !isFixed v) ++ fixed.map asVariable ++
    (usual.filter fun entry => !isGiven entry.1).map asVariable

/-- Notes the directory that the shell starts in. The name that it is given counts if it leads
there. -/
def noteStart : Run Unit := do
  let s ← get
  let named ← match s.valueOf? "PWD" with
    | none => pure none
    | some path =>
      if !path.startsWith "/" then pure none
      else match ← Run.call (.inspect path true), ← Run.call (.inspect "." true) with
        | .ok a, .ok b => pure (if a.identity = b.identity then some path else none)
        | _, _ => pure none
  noteDirectory named false

structure Started where
  hasText : Bool := false
  args : List String

def startLetters (on : Bool) : List Char → Started → Run Started
  | [], st => return st
  | 'c' :: letters, st => startLetters on letters { st with hasText := true }
  | 'l' :: letters, st => startLetters on letters st
  | 'o' :: letters, st => do
    match st.args with
    | [] => showSettings (!on)
    | name :: _ => setName on name
    startLetters on letters { st with args := st.args.drop 1 }
  | c :: letters, st => do
    setLetter on c
    startLetters on letters st

def startOptions : Nat → Started → Run Started
  | 0, st => return st
  | fuel + 1, st => do
    match st.args with
    | [] => return st
    | arg :: rest =>
      match arg.toList with
      | ['-'] | ['-', '-'] => return { st with args := rest }
      | '-' :: letters =>
        startOptions fuel (← startLetters true letters { st with args := rest })
      | '+' :: letters =>
        startOptions fuel (← startLetters false letters { st with args := rest })
      | _ => return st

def openScript (path : String) : Run Nat := do
  let opened ← openFile path .input
  match ← Run.call (.duplicateAbove opened firstHidden) with
  | .ok hidden =>
    Run.call (.close opened)
    return hidden
  | .error _ => return opened

def runStarted (run : Runner) (st : Started) : Run Nat := do
  if st.hasText && st.args.isEmpty then fail "-c requires an argument"
  if st.args.isEmpty then modify fun s => s.withSetting .standardInput true
  let readsInput := (← get).has .standardInput
  let script ← match st.args with
    | path :: _ => if st.hasText || readsInput then pure none else some <$> openScript path
    | [] => pure none
  let rest := if st.hasText then st.args.drop 1 else st.args
  let namesItself := st.hasText || script.isSome
  modify fun s =>
    match rest with
    | name :: parameters =>
      if namesItself then { s with name, parameters } else { s with parameters := rest }
    | [] => s
  if st.hasText || !readsInput then
    unless ← mustStayIgnored Signal.interrupt do
      Run.call (.dispose Signal.interrupt .caught)
  checkJobControl
  let status ← if st.hasText then runText run (st.args.headD "") { isLast := !readsInput }
    else pure 0
  if readsInput then runDescriptor run 0 true
  else match script with
    | some descriptor => runDescriptor run descriptor true
    | none => return status

def process (args : List String) (environment : Environment) : Act :=
  .call .whoAmI fun (process, parent) =>
    let run := runner manyLevels
    let name := args.headD "sh"
    let s : Session := { name, process, bindings := firstBindings environment parent }
    let whole : Run Nat := do
      noteStart
      let st ← startOptions (args.length + 1) { args := args.drop 1 }
      runStarted run st
    whole s (finish run)

end Conformance.Shell

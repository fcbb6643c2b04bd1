import Conformance.Shell.Builtin.Test
import Conformance.Shell.Builtin.Output
import Conformance.Shell.Builtin.Parameter
import Conformance.Shell.Builtin.Naming
import Conformance.Shell.Builtin.Directory
import Conformance.Shell.Builtin.Process

/-! # Running commands

What each kind of command does. The commands inside a command are run by a runner that is given; the
evaluator ties the knot up to a depth.
-/

namespace Conformance.Shell

open Conformance.System

/-! ## Utilities that run commands -/

namespace Builtin

def findScript (name : String) : List String → Run String
  | [] => fail (name ++ ": not found")
  | path :: rest => do
    match ← Run.call (.inspect path true) with
    | .ok info => if info.kind = .regular then return path else findScript name rest
    | .error _ => findScript name rest

def dot (run : Runner) (args : List String) : Run Nat := do
  let (_, args) ← optionsOf "" args
  match args with
  | [] => return 0
  | name :: _ =>
    let path ← if name.toList.contains '/' then pure name
      else findScript name (pathsAlong (← get).searchPath name)
    let opened ← openFile path .input
    let descriptor ← match ← Run.call (.duplicateAbove opened firstHidden) with
      | .ok hidden =>
        Run.call (.close opened)
        pure hidden
      | .error _ => pure opened
    modify fun s => { s with command := some path }
    let status ← runDescriptor run descriptor false
    Run.call (.close descriptor)
    return status

def eval (run : Runner) (p : Position) (args : List String) : Run Nat := do
  if args.isEmpty then return 0
  else runText run (String.intercalate " " args) { isTested := p.isTested }

def exit (args : List String) : Run Nat := do
  match args with
  | [] => throw .exit
  | arg :: _ =>
    let n ← numberOf arg
    modify fun s => { s with keptStatus := some n }
    throw .exit

def return_ (args : List String) : Run Nat := do
  match args with
  | [] =>
    modify fun s => { s with skip := some .leaveAsIs }
    return (← get).status
  | arg :: _ =>
    modify fun s => { s with skip := some .leaveFunction }
    numberOf arg

def leaveLoops (goesOn : Bool) (args : List String) : Run Nat := do
  let count ← match args with
    | [] => pure 1
    | arg :: _ => numberOf arg
  if count = 0 then fail ("Illegal number: " ++ args.headD "")
  let count := min count (← get).loops
  if 0 < count then
    modify fun s => { s with
      skip := some (if goesOn then .nextRound count else .leaveLoops count) }
  return 0

end Builtin

def runUtility (run : Runner) (p : Position) (name : String) (args : List String) : Run Nat :=
  match name with
  | "." => Builtin.dot run args
  | ":" | "true" => return 0
  | "[" | "test" => Test.run name args
  | "alias" => Builtin.alias_ args
  | "bg" | "fg" => Builtin.resume args
  | "break" => Builtin.leaveLoops false args
  | "cd" | "chdir" => Builtin.cd args
  | "command" => Builtin.command args
  | "continue" => Builtin.leaveLoops true args
  | "echo" => Builtin.echo args
  | "eval" => Builtin.eval run p args
  | "exec" => if args.isEmpty then return 0 else do
      becomeProgram (← get).searchPath 0 args
  | "exit" => Builtin.exit args
  | "export" => Builtin.mark name { exports := true } args
  | "false" => return 1
  | "getopts" => Builtin.getopts args
  | "hash" => Builtin.hash args
  | "jobs" => Builtin.jobs args
  | "kill" => Builtin.kill args
  | "local" => Builtin.local_ args
  | "printf" => Builtin.printf args
  | "pwd" => Builtin.pwd args
  | "read" => Builtin.read args
  | "readonly" => Builtin.mark name { protects := true } args
  | "return" => Builtin.return_ args
  | "set" => Builtin.options args
  | "shift" => Builtin.shift args
  | "times" => Builtin.times
  | "trap" => Builtin.trap args
  | "type" => Builtin.type args
  | "ulimit" => Builtin.ulimit args
  | "umask" => Builtin.umask args
  | "unalias" => Builtin.unalias args
  | "unset" => Builtin.unset args
  | "wait" => Builtin.wait args
  | _ => return 127

/-! ## Simple commands -/

structure Invocation where
  args : List String := []
  found : Found := .unknown
  special : Option Bool := none
  functions : Bool := true
  path : Option String := none

/-- Expands words until one of them gives arguments. The answer is the arguments with the words that
are left. -/
def fillArguments (run : Runner) : List Word → Run (List String × List Word)
  | [] => return ([], [])
  | word :: rest => do
    match ← expandFields run word with
    | [] => fillArguments run rest
    | args => return (args, rest)

/-- What is run in place of a command by the utility of that name: its arguments, and whether the
usual search path is used; nothing if the utility answers itself. -/
def passCommand (run : Runner) : Nat → Bool → List String → List Word →
    Run (Option (Bool × List String) × List String × List Word)
  | 0, _, args, words => return (none, args, words)
  | fuel + 1, usual, before, words => do
    let (args, words) ← match before with
      | _ :: _ :: _ => pure (before, words)
      | _ =>
        let (more, words) ← fillArguments run words
        pure (before ++ more, words)
    match args with
    | name :: arg :: rest =>
      match arg.toList with
      | ['-', '-'] =>
        let (rest, words) ← if rest.isEmpty then fillArguments run words else pure (rest, words)
        return (if rest.isEmpty then none else some (usual, rest), name :: arg :: rest, words)
      | '-' :: c :: letters =>
        if (c :: letters).all (· = 'p') then
          let (result, after, words) ← passCommand run fuel true (arg :: rest) words
          return (result, name :: after, words)
        else return (none, args, words)
      | _ => return (some (usual, arg :: rest), args, words)
    | _ => return (none, args, words)

/-- Finds the command that arguments name. What a command is run by is looked through. -/
def findInvocation (run : Runner) : Nat → Invocation → List Word → Run (Invocation × List Word)
  | 0, i, words => return (i, words)
  | fuel + 1, i, words => do
    let found ← findCommand { functions := i.functions, programs := false } (i.args.headD "")
    let i := { i with found }
    match found with
    | .own u =>
      let i := { i with special := some (i.special.getD u.isSpecial) }
      if u.name ≠ "command" then return (i, words)
      else
        let (passed, args, words) ← passCommand run manyTimes false i.args words
        match passed with
        | none => return ({ i with args }, words)
        | some (usual, args) =>
          findInvocation run fuel
            { i with args, functions := false, path := if usual then some usualPath else i.path }
            words
    | _ => return (i, words)

def expandRest (run : Runner) (takesAssignments : Bool) : List Word → Run (List String)
  | [] => return []
  | word :: rest => do
    let args ← if takesAssignments && Word.isAssignment word then
        List.singleton <$> expandText run .assignment word
      else expandFields run word
    return args ++ (← expandRest run takesAssignments rest)

def invocationOf (run : Runner) (words : List Word) : Run Invocation := do
  let (args, rest) ← fillArguments run words
  if args.isEmpty then return {}
  else
    let (i, rest) ← findInvocation run (args.length + words.length + 1) { args } rest
    let takes : Bool := match i.found with
      | .own u => u.takesAssignments
      | _ => false
    return { i with args := i.args ++ (← expandRest run takes rest) }

def traceMark (run : Runner) : Run String := do
  match readText (((← get).valueOf? "PS4").getD "").toList with
  | .ok word => expandText run .document word
  | .error _ => return ""

def showCommand (run : Runner) (texts : List String) : Run Unit := do
  let s ← get
  if s.has .trace && !s.tracing then
    set { s with tracing := true }
    let mark ← traceMark run
    modify fun s => { s with tracing := false }
    let text := mark ++ String.intercalate " " texts ++ "\n"
    let _ ← Run.call (.write s.traceDescriptor (bytesOf text.toList))

def unwindScopes (depth : Nat) : Run Unit := do
  let s ← get
  for _ in s.locals.drop depth do closeScope

def callUtility (run : Runner) (p : Position) (args : List String) : Run (Except Halt Unit) := do
  let name := args.head?
  let before := (← get).command
  modify fun s => { s with command := name }
  let utility : Run Unit := do
    let status ← match name with
      | some name => runUtility run p name (args.drop 1)
      | none => do
        let s ← get
        pure s.outputStatus
    if ← flush then setStatus status
    else
      warn (name.getD "" ++ ": I/O error")
      setStatus (status ||| 1)
  let outcome ← utility.result
  modify fun s => { s with command := before, said := [] }
  return outcome

/-- How many functions may be run inside each other. -/
def maxDepth : Nat := 1000

def callFunction (run : Runner) (p : Position) (body : Command) (args : List String) :
    Run (Except Halt Unit) := do
  let before ← get
  if maxDepth ≤ before.depth then
    fail ("Maximum function recursion depth (" ++ toString maxDepth ++ ") reached")
  set { before with
    parameters := args
    depth := before.depth + 1
    loops := 0
    optionIndex := 1
    optionOffset := none }
  let outcome ← (run body { isTested := p.isTested }).result
  modify fun s => { s with
    parameters := before.parameters
    depth := before.depth
    loops := before.loops
    optionIndex := before.optionIndex
    optionOffset := before.optionOffset }
  stopLeaving
  return outcome.map fun _ => ()

/-- Runs a program, in this process if it ends with the command; the answer is its status. -/
def callProgram (p : Position) (path : Option String) (index : Nat)
    (args : List String) : Run Nat := do
  let s ← get
  let hasTraps : Bool := s.traps.any fun entry => !entry.2.isEmpty
  if p.isLast && !hasTraps then becomeProgram path index args
  else
    let job ← newJob
    let process ← fork (fun _ s => .exit s.status) (becomeProgram path index args)
    enlist job process
    awaitJob job

def call (run : Runner) (p : Position) (i : Invocation) : Run Nat := do
  let s ← get
  let path := if i.path.isSome then i.path else s.searchPath
  let found ← match i.found, i.args with
    | .own u, _ => pure (Found.own u)
    | _, [] => pure .unknown
    | _, name :: _ =>
      findCommand { functions := i.functions, complains := true, path := i.path } name
  let outcome : Except Halt Unit ← match found with
    | .function body => callFunction run p body (i.args.drop 1)
    | .own _ => do
      match ← callUtility run p i.args with
      | .error .failed =>
        if i.special = some true then throw .failed else pure (.ok ())
      | outcome => pure outcome
    | .unknown =>
      if i.args.isEmpty then callUtility run p []
      else
        setStatus 127
        if i.special = some true then throw .failed else pure (.ok ())
    | .program index => do
      setStatus (← callProgram p path (index.getD 0) i.args)
      pure (.ok ())
  Run.ofResult outcome
  match found with
  | .program _ => return (← get).status
  | _ =>
    takeNote
    return (← get).status

def runSimple (run : Runner) (p : Position) (line : Nat) (assignments words : List Word)
    (redirections : List Redirection) : Run Nat := do
  modify fun s => { s with line, outputStatus := 0 }
  let before ← get
  let i ← invocationOf run words
  let changesLast := i.args.isEmpty || i.special = some true
  unless changesLast do openScope
  let isExec : Bool := match i.found with
    | .own u => u.name = "exec"
    | _ => false
  let targets ← redirections.mapM (targetOf run)
  unless targets.isEmpty do openRedirections
  modify fun s => { s with traceDescriptor := 2 }
  let cleanUp : Run Unit := do
    unless targets.isEmpty do
      if before.redirected.length < (← get).redirected.length then closeRedirections isExec
    unwindRedirections before.redirected.length
    unwindScopes before.locals.length
  let status ← redirectSafely run targets true
  if status ≠ 0 then
    setStatus status
    if i.special = some true then throw .failed
    cleanUp
    return status
  else
    let mut texts : List String := []
    for word in assignments do
      let (name, valueWord) := Word.splitAssignment word
      let value ← expandText run .value valueWord
      texts := (name ++ "=" ++ value) :: texts
      if changesLast then change name (some value) { exports := isExec && 1 < i.args.length }
      else makeLocal name (some value) { exports := true }
    showCommand run (texts.reverse ++ i.args)
    let status ← call run p i
    cleanUp
    return status

/-! ## Compound commands -/

def runOption (run : Runner) (command : Option Command) (p : Position) : Run Nat :=
  match command with
  | some command => run command p
  | none => return 0

inductive Round where
  | finished | again | leave
deriving DecidableEq, Repr

def endRound : Run Round := do
  let s ← get
  match s.skip with
  | none => return .finished
  | some (.leaveLoops count) =>
    set { s with skip := if count ≤ 1 then none else some (.leaveLoops (count - 1)) }
    return .leave
  | some (.nextRound count) =>
    set { s with skip := if count ≤ 1 then none else some (.nextRound (count - 1)) }
    return if count ≤ 1 then .again else .leave
  | some _ => return .leave

def runLoop (run : Runner) (p : Position) (outcome : Bool) (condition body : Option Command) :
    Nat → Nat → Run Nat
  | 0, status => return status
  | fuel + 1, status => do
    let test ← runOption run condition { isTested := true }
    match ← endRound with
    | .again => runLoop run p outcome condition body fuel status
    | .leave => return if (← get).skip = some .leaveFunction then test else status
    | .finished =>
      if (test = 0) ≠ outcome then return status
      else
        let status ← runOption run body { isTested := p.isTested }
        match ← endRound with
        | .leave => return status
        | _ => runLoop run p outcome condition body fuel status

def runEach (run : Runner) (p : Position) (name : String) (body : Option Command) :
    List String → Nat → Run Nat
  | [], status => return status
  | value :: rest, _ => do
    assign name value
    let status ← runOption run body { isTested := p.isTested }
    match ← endRound with
    | .leave => return status
    | _ => runEach run p name body rest status

def inLoop (loop : Run Nat) : Run Nat := do
  modify fun s => { s with loops := s.loops + 1 }
  let status ← loop
  modify fun s => { s with loops := s.loops - 1 }
  return status

def fitsOne (run : Runner) (text : List Char) : List Word → Run Bool
  | [] => return false
  | pattern :: rest => do
    if fits (← expandPattern run pattern) text then return true else fitsOne run text rest

def findCase (run : Runner) (text : List Char) :
    List (List Word × Option Command) → Run (Option Command)
  | [] => return none
  | (patterns, body) :: rest => do
    if ← fitsOne run text patterns then return body else findCase run text rest

/-- Starts the commands of a pipeline, each one reading what the one before writes. -/
def startStages (run : Runner) (p : Position) (job : Nat) (waits : Bool) :
    (input : Option Nat) → List Command → Run Unit
  | _, [] => return
  | input, command :: rest => do
    lookAhead command
    let output ← if rest.isEmpty then pure none else some <$> Run.call .pipe
    start (finish run) job (!waits) do
      if let some (readEnd, _) := output then Run.call (.close readEnd)
      if let some input := input then moveDescriptor input 0
      if let some (_, writeEnd) := output then moveDescriptor writeEnd 1
      run command { p with isLast := true }
    if let some input := input then Run.call (.close input)
    if let some (_, writeEnd) := output then Run.call (.close writeEnd)
    startStages run p job waits (output.map Prod.fst) rest

def runPipeline (run : Runner) (p : Position) (waits : Bool) (stages : List Command) : Run Nat := do
  let job ← newJob
  startStages run p job waits none stages
  if waits then awaitJob job else return 0

/-- Runs commands as a process of their own, or in this process if it ends with them. -/
def runSubshell (run : Runner) (p : Position) (inBackground : Bool) (body : Option Command)
    (redirections : List Redirection) : Run Nat := do
  let targets ← redirections.mapM (targetOf run)
  let isTested := p.isTested && !inBackground
  let inner : Run Nat := do
    redirectAll run false targets
    let _ ← runOption run body { isLast := true, isTested }
    throw .ended
  let hasTraps : Bool := (← get).traps.any fun entry => !entry.2.isEmpty
  if p.isLast && !inBackground && !hasTraps then inner
  else
    let job ← newJob
    start (finish run) job inBackground inner
    if inBackground then return 0 else awaitJob job

def commandTime (count : Nat) : Nat := 1 + count / 100000

/-- Notes the status of a command, and lets time pass. One that fails ends the shell if that is asked
for and nobody looks at the outcome. -/
def conclude (run : Runner) (p : Position) (status : Nat) : Run Nat := do
  let s ← get
  set { s with status, count := s.count + 1 }
  if s.has .exitOnError && !p.isTested && status ≠ 0 then throw .ended
  spend run (commandTime s.count)
  return status

def noteStatus (run : Runner) (status : Nat) : Run Nat := do
  setStatus status
  runTraps run
  return status

def runRedirected (run : Runner) (p : Position) (command : Command)
    (redirections : List Redirection) : Run Nat := do
  let targets ← redirections.mapM (targetOf run)
  unless targets.isEmpty do openRedirections
  let failure ← redirectSafely run targets false
  let status ← if failure ≠ 0 then pure failure else run command { isTested := p.isTested }
  unless targets.isEmpty do closeRedirections false
  if failure ≠ 0 then conclude run p status else noteStatus run status

/-- Runs the second of two commands, unless commands are passed over. -/
def andThen (run : Runner) (first : Command) (p q : Position) (goesOn : Nat → Bool)
    (second : Command) : Run Nat := do
  let status ← run first q
  if !goesOn status || (← get).skip.isSome then
    runTraps run
    return status
  else noteStatus run (← run second p)

def evaluate (run : Runner) (command : Command) (p : Position) : Run Nat := do
  let tested : Position := { isTested := true }
  if (← get).has .noExecution then return 0
  runTraps run
  match command with
  | .simple line assignments words redirections =>
    conclude run p (← runSimple run p line assignments words redirections)
  | .redirected line command redirections =>
    modify fun s => { s with line }
    runRedirected run p command redirections
  | .pipeline waits commands => conclude run p (← runPipeline run p waits commands)
  | .subshell line body redirections =>
    modify fun s => { s with line }
    conclude run p (← runSubshell run p false body redirections)
  | .background line body redirections =>
    modify fun s => { s with line }
    conclude run p (← runSubshell run p true (some body) redirections)
  | .negation command =>
    let status ← run command tested
    let isLeft : Bool := (← get).skip.isSome
    noteStatus run (if isLeft then status else if status = 0 then 1 else 0)
  | .both first second => andThen run first p tested (· = 0) second
  | .either first second => andThen run first p tested (· ≠ 0) second
  | .sequence first second => andThen run first p { isTested := p.isTested } (fun _ => true) second
  | .branch condition body otherwise =>
    let status ← runOption run condition tested
    if (← get).skip.isSome then
      runTraps run
      return status
    else if status = 0 then noteStatus run (← runOption run body p)
    else noteStatus run (← runOption run otherwise p)
  | .loop outcome condition body =>
    noteStatus run (← inLoop (runLoop run p outcome condition body manyTimes 0))
  | .each line name words body =>
    modify fun s => { s with line }
    let values ← expandAll run words
    noteStatus run (← inLoop (runEach run p (String.ofList name) body values 0))
  | .choice line subject cases =>
    modify fun s => { s with line }
    let text ← expandText run .single subject
    spend run (commandTime (← get).count)
    match ← findCase run text.toList cases with
    | some body => noteStatus run (← run body p)
    | none => noteStatus run 0
  | .definition _ name body =>
    let name := String.ofList name
    forget name
    modify fun s =>
      let others := s.functions.filter fun f => f.1 ≠ name
      { s with functions := (name, body.getD default) :: others }
    noteStatus run 0

def runner : Nat → Runner
  | 0 => fun _ _ => fail "Maximum depth reached"
  | depth + 1 => fun command p => evaluate (runner depth) command p

def manyLevels : Nat := 1000000000

end Conformance.Shell

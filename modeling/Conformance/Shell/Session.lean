import Conformance.System.Signal
import Conformance.System.Call
import Conformance.Shell.Command

/-! # Sessions of the shell

What belongs to one shell process: parameters, variables, functions, options, traps and jobs. A
computation of the shell changes its session, may ask the system, and may be left early.
-/

namespace Conformance.Shell

open Conformance.System

inductive Setting where
  | exitOnError | noGlobbing | ignoreEnd | interactive | jobControl | noExecution | standardInput
  | trace | echoInput | viKeys | emacsKeys | noClobber | exportAll | notifyAtOnce | unsetIsError
  | privileged | noLog | debug
deriving DecidableEq, Repr

namespace Setting

def table : List (Setting × String × Option Char) :=
  [(.exitOnError, "errexit", some 'e'), (.noGlobbing, "noglob", some 'f'),
    (.ignoreEnd, "ignoreeof", some 'I'), (.interactive, "interactive", some 'i'),
    (.jobControl, "monitor", some 'm'), (.noExecution, "noexec", some 'n'),
    (.standardInput, "stdin", some 's'), (.trace, "xtrace", some 'x'),
    (.echoInput, "verbose", some 'v'), (.viKeys, "vi", some 'V'),
    (.emacsKeys, "emacs", some 'E'), (.noClobber, "noclobber", some 'C'),
    (.exportAll, "allexport", some 'a'), (.notifyAtOnce, "notify", some 'b'),
    (.unsetIsError, "nounset", some 'u'), (.privileged, "privileged", some 'p'),
    (.noLog, "nolog", none), (.debug, "debug", none)]

def ofLetter? (letter : Char) : Option Setting :=
  (table.find? fun entry => entry.2.2 = some letter).map Prod.fst

def ofName? (name : String) : Option Setting :=
  (table.find? fun entry => entry.2.1 = name).map Prod.fst

end Setting

structure Variable where
  name : String
  value : Option String
  exported : Bool := false
  readOnly : Bool := false
deriving DecidableEq, Repr

/-- What a function or a command has to put back at its end. -/
inductive Saved where
  | binding (name : String) (old : Option Variable)
  | settings (old : List Setting)
deriving Repr

inductive Skip where
  | leaveLoops (count : Nat)
  /-- A loop goes on, after a number of others are left. -/
  | nextRound (count : Nat)
  /-- A function or a script is left, with a status that was given. -/
  | leaveFunction
  /-- A function or a script is left with the status that there is. -/
  | leaveAsIs
deriving DecidableEq, Repr

structure Member where
  process : Nat
  ended : Option Ended := none
deriving DecidableEq, Repr

structure Job where
  number : Nat
  members : List Member := []
  waitedFor : Bool := false
deriving DecidableEq, Repr

def Job.isDone (j : Job) : Bool := j.members.all fun m => m.ended.isSome

structure Remembered where
  name : String
  index : Nat
  /-- Whether the place must be looked at once more. -/
  stale : Bool := false
deriving DecidableEq, Repr

inductive Former where
  | closed
  | movedTo (descriptor : Nat)
deriving DecidableEq, Repr

structure Session where
  name : String
  process : Nat
  isFirst : Bool := true
  parameters : List String := []
  bindings : List Variable := []
  locals : List (List Saved) := []
  functions : List (String × Command) := []
  aliases : List (String × String) := []
  remembered : List Remembered := []
  settings : List Setting := []
  status : Nat := 0
  /-- The status that leaving has inside a trap. -/
  keptStatus : Option Nat := none
  /-- The status of the last command whose output was taken. -/
  outputStatus : Nat := 0
  lastBackground : Option Nat := none
  /-- The actions of traps; zero is the end of the shell, and an empty action ignores a signal. -/
  traps : List (Nat × String) := []
  /-- The signals that the shell knows, and whether they must stay ignored. -/
  knownSignals : List (Nat × Bool) := []
  pending : List Nat := []
  jobs : List Job := []
  children : Nat := 0
  /-- The line that messages tell of, and the line that the script has been read up to. -/
  line : Nat := 0
  readLine : Nat := 1
  firstLine : Nat := 1
  command : Option String := none
  depth : Nat := 0
  loops : Nat := 0
  skip : Option Skip := none
  /-- The working directory as it was named, and as it is. -/
  place : String := ""
  truePlace : String := ""
  /-- The next argument for reading options, and the position in the one before. -/
  optionIndex : Nat := 1
  optionOffset : Option Nat := none
  redirected : List (List (Nat × Former)) := []
  traceDescriptor : Nat := 2
  tracing : Bool := false
  said : List (List Char) := []
  count : Nat := 0
  mask : Nat := 0o022

inductive Halt where
  | failed
  | ended
  | exit
deriving DecidableEq, Repr

/-- A computation of the shell, as a function of what is done after it. -/
def Run (α : Type) : Type := Session → (Except Halt α → Session → Act) → Act

namespace Run

instance : Monad Run where
  pure a := fun s next => next (.ok a) s
  bind run f := fun s next => run s fun result s =>
    match result with
    | .ok a => f a s next
    | .error halt => next (.error halt) s

instance : MonadExcept Halt Run where
  throw halt := fun s next => next (.error halt) s
  tryCatch run handle := fun s next => run s fun result s =>
    match result with
    | .ok a => next (.ok a) s
    | .error halt => handle halt s next

instance : MonadStateOf Session Run where
  get := fun s next => next (.ok s) s
  set s := fun _ next => next (.ok ()) s
  modifyGet f := fun s next => next (.ok (f s).1) (f s).2

def call (c : Call) : Run c.Reply := fun s next => .call c fun reply => next (.ok reply) s

def lift {α : Type} (action : Action α) : Run α := fun s next => action fun a => next (.ok a) s

/-- What a computation comes to, whether it is left early or not. -/
def result {α : Type} (run : Run α) : Run (Except Halt α) :=
  fun s next => run s fun result s => next (.ok result) s

def ofResult {α : Type} (result : Except Halt α) : Run α := fun s next => next result s

end Run

namespace Session

def has (s : Session) (setting : Setting) : Bool := s.settings.contains setting

def withSetting (s : Session) (setting : Setting) (on : Bool) : Session :=
  let others := s.settings.filter (· ≠ setting)
  { s with settings := if on then setting :: others else others }

def letters (s : Session) : String :=
  String.ofList (Setting.table.reverse.filterMap fun (setting, _, letter) =>
    if s.has setting then letter else none)

end Session

/-! ## Messages -/

def tell (text : String) : Run Unit := do
  let _ ← Run.call (.write 2 (bytesOf text.toList))

def warn (message : String) : Run Unit := do
  let s ← get
  let command := match s.command with
    | some name => name ++ ": "
    | none => ""
  tell (s.name ++ ": " ++ toString s.line ++ ": " ++ command ++ message ++ "\n")

def say (text : String) : Run Unit := modify fun s => { s with said := text.toList :: s.said }

def flush : Run Bool := do
  let s ← get
  if s.said.isEmpty then return true
  else
    set { s with said := [] }
    match ← Run.call (.write 1 (bytesOf s.said.reverse.flatten)) with
    | .ok () => return true
    | .error _ => return false

def leave {α : Type} (status : Nat) (halt : Halt) (message : String) : Run α := do
  modify fun s => { s with status }
  warn message
  let _ ← flush
  throw halt

def fail {α : Type} (message : String) : Run α := leave 2 .failed message

def setStatus (status : Nat) : Run Unit := modify fun s => { s with status }

/-! ## Numbers -/

def greatestNumber : Int := 2147483647

def isBlank (c : Char) : Bool := c = ' ' || ('\t' ≤ c && c ≤ '\r')

end Conformance.Shell

import Conformance.Shell.Binding

/-! # Jobs of the shell

The processes that a shell starts, and waiting for them. A job is remembered until somebody has
learned how it ended.
-/

namespace Conformance.Shell

open Conformance.System

abbrev Ending := Except Halt Nat → Session → Act

/-- The status of a process that has ended. -/
def statusOf : Ended → Nat
  | .exited code => code
  | .killed signal => 128 + signal

def Job.status (j : Job) : Nat := ((j.members.getLast?.bind Member.ended).map statusOf).getD 0

namespace Session

def job? (s : Session) (number : Nat) : Option Job := s.jobs.find? fun j => j.number = number

def withJob (s : Session) (j : Job) : Session :=
  { s with jobs := s.jobs.map fun other => if other.number = j.number then j else other }

def withoutJob (s : Session) (number : Nat) : Session :=
  { s with jobs := s.jobs.filter fun j => j.number ≠ number }

def isRunning (s : Session) (number : Nat) : Bool := (s.job? number).any fun j => !j.isDone

def withEnd (s : Session) (process : Nat) (how : Ended) : Session :=
  let note (m : Member) : Member :=
    if m.process = process && m.ended.isNone then { m with ended := some how } else m
  { s with
    jobs := s.jobs.map fun j => { j with members := j.members.map note }
    children := s.children - 1 }

end Session

/-- Makes a job, which is the current one; the answer is its number. A job that has ended and was
waited for gives way. -/
def newJob : Run Nat := do
  let s ← get
  let isFree (number : Nat) : Bool :=
    (s.job? number).all fun j => j.isDone && j.waitedFor
  let number := ((List.range (s.jobs.length + 1)).map (· + 1)).find? isFree |>.getD 1
  set { s with jobs := { number } :: s.jobs.filter fun j => j.number ≠ number }
  return number

/-! ## Starting processes -/

/-- What a part of the shell forgets when it becomes a process of its own. -/
def becomePart : Run Unit := do
  let s ← get
  for (signal, action) in s.traps do
    unless action.isEmpty || signal = 0 do Run.call (.dispose signal .usual)
  set { s with
    isFirst := false
    readLine := s.firstLine
    traps := s.traps.filter fun entry => entry.2.isEmpty
    pending := []
    jobs := []
    children := 0
    redirected := [] }

def fork (ending : Ending) (child : Run Nat) : Run Nat := fun s next =>
  .fork (child s ending) fun process =>
    next (.ok process) { s with children := s.children + 1 }

def enlist (job process : Nat) : Run Unit := modify fun s =>
  match s.job? job with
  | some j => s.withJob { j with members := j.members ++ [{ process }] }
  | none => s

/-- A process in the background takes no heed of the keyboard, and the first one of its job reads
nothing. -/
def goToBackground (isFirst : Bool) : Run Unit := do
  let signals := [Signal.interrupt, Signal.quit]
  for signal in signals do Run.call (.dispose signal .ignored)
  modify fun s => { s with
    knownSignals := signals.map (·, true) ++
      s.knownSignals.filter fun entry => !signals.contains entry.1 }
  if isFirst then
    Run.call (.close 0)
    let _ ← Run.call (.openFile "/dev/null" .input)

def start (ending : Ending) (job : Nat) (inBackground : Bool) (child : Run Nat) : Run Unit := do
  let isFirst := ((← get).job? job).all fun j => j.members.isEmpty
  let process ← fork ending do
    becomePart
    if inBackground then goToBackground isFirst
    child
  enlist job process
  if inBackground then modify fun s => { s with lastBackground := some process }

/-! ## Waiting -/

/-- What one look for processes that have ended comes to. -/
inductive Reaped where
  | one | interrupted | nobody
deriving DecidableEq, Repr

def mourn : Ended → Run Unit
  | .exited _ => return
  | .killed signal => do
    unless signal = Signal.interrupt || signal = Signal.brokenPipe do
      tell (Signal.wordsOf signal ++ "\n")

def reap (patience : Patience) (job : Option Nat) : Run Reaped := do
  match ← Run.call (.await patience) with
  | .ok (some (process, how)) =>
    modify fun s => s.withEnd process how
    let members := ((job.bind (← get).job?).map Job.members).getD []
    if members.any fun m => m.process = process then mourn how
    return .one
  | .ok none => return if patience = .none then .nobody else .interrupted
  | .error _ => return .nobody

/-- A bound for what a shell may repeat. -/
def manyTimes : Nat := 1000000000000

/-- Waits until a job is done, or for one process if none is given, and takes note of all that have
ended meanwhile. The answer is whether no signal came in between. -/
def await (patience : Patience) (job : Option Nat) : Run Bool := do
  let s ← get
  let patience := if job.any fun j => !s.isRunning j then .none else patience
  go patience manyTimes true
where
  go : Patience → Nat → Bool → Run Bool
    | _, 0, calm => return calm
    | patience, fuel + 1, calm => do
      if patience = .none && (← get).children = 0 then return calm
      match ← reap patience job with
      | .nobody => return calm
      | .interrupted => go .none fuel false
      | .one =>
        let s ← get
        let goesOn : Bool := job.any s.isRunning
        go (if goesOn then patience else .none) fuel calm

def takeNote : Run Unit := do
  if 0 < (← get).children then
    let _ ← await .none none

def awaitJob (job : Nat) : Run Nat := do
  let _ ← await .unlimited (some job)
  let status := (((← get).job? job).map Job.status).getD 0
  modify fun s => s.withoutJob job
  return status

/-! ## Naming jobs -/

def findJob (text : String) : Run Job := do
  let s ← get
  let check (found : Option Job) (message : String) : Run Job :=
    match found with
    | some j => return j
    | none => fail message
  let unknown := "No such job: " ++ text
  match text.toList with
  | '%' :: name =>
    let name := String.ofList name
    if name = "" || name = "+" || name = "%" then check s.jobs.head? "No current job"
    else if name = "-" then check (s.jobs.drop 1).head? "No previous job"
    else if name = "?" then check (if s.jobs.length = 1 then s.jobs.head? else none) unknown
    else check ((decimal? name).bind fun n => s.job? n.toNat) unknown
  | _ => fail unknown

/-- The numbers of columns that the states of jobs start and end at. -/
def stateColumn : Nat := 33

inductive JobStyle where
  | usual | withProcesses | firstProcess
deriving DecidableEq, Repr

def Job.state (j : Job) : String :=
  if !j.isDone then "Running"
  else match j.members.getLast?.bind Member.ended with
    | some (.killed signal) => Signal.wordsOf signal
    | some (.exited 0) | none => "Done"
    | some (.exited code) => "Done(" ++ toString code ++ ")"

def blanksTo (column : Nat) : String :=
  String.ofList (List.replicate (max 1 (stateColumn - column)) ' ')

def memberLines (indent : Nat) : List Member → String
  | [] => "\n"
  | m :: rest =>
    let digits := toString m.process
    let text := " |\n" ++ String.ofList (List.replicate indent ' ') ++ digits ++ " "
    text ++ blanksTo (text.length - 3) ++ memberLines indent rest

def Job.describe (j : Job) (mark : Char) (style : JobStyle) : String :=
  let first := (j.members.head?.map Member.process).getD 0
  let start := "[" ++ toString j.number ++ "] " ++ String.singleton mark ++ " "
  match style with
  | .firstProcess => toString first ++ "\n"
  | .withProcesses =>
    let text := start ++ toString first ++ " " ++ j.state
    text ++ blanksTo text.length ++ memberLines start.length (j.members.drop 1)
  | .usual =>
    let text := start ++ j.state
    text ++ blanksTo text.length ++
      String.join ((j.members.drop 1).map fun _ => " | ") ++ "\n"

def showJob (style : JobStyle) (j : Job) : Run Unit := do
  let s ← get
  let isAt (place : Nat) : Bool := (s.jobs.drop place).head?.any fun other => other.number = j.number
  let mark := if isAt 0 then '+' else if isAt 1 then '-' else ' '
  say (j.describe mark style)
  if j.isDone && style ≠ .firstProcess then modify fun s => s.withoutJob j.number

end Conformance.Shell

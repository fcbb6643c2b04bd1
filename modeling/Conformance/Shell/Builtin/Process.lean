import Conformance.Shell.Builtin.Options

/-! # Processes and signals

The utilities of the shell itself that deal with jobs, signals and traps.
-/

namespace Conformance.Shell

open Conformance.System

def signalNumbered? (text : String) : Option Nat :=
  let chars := text.toList
  if !chars.isEmpty && chars.all Char.isDigit then
    let n := (text.toNat?).getD Signal.limit
    if n < Signal.limit then some n else none
  else none

def capitals (text : String) : String := String.ofList (text.toList.map Char.toUpper)

def signalNamed? (text : String) : Option Nat :=
  (Signal.all.find? fun s => s.name = capitals text).map Signal.number

def signal? (text : String) : Option Nat :=
  match signalNumbered? text with
  | some n => some n
  | none => signalNamed? text

def trapSignal? (text : String) : Option Nat :=
  match signal? text with
  | some n => some n
  | none => if capitals text = "EXIT" then some 0 else none

/-- Whether a signal must stay ignored. It is looked up once. -/
def mustStayIgnored (signal : Nat) : Run Bool := do
  let s ← get
  match s.knownSignals.find? fun entry => entry.1 = signal with
  | some (_, stays) => return stays
  | none =>
    let disposition : Disposition ← Run.call (.disposition signal)
    let stays := disposition == .ignored
    modify fun s => { s with knownSignals := (signal, stays) :: s.knownSignals }
    return stays

def dispositionFor (s : Session) (signal : Nat) (action : Option String) : Disposition :=
  match action with
  | some action => if action.isEmpty then .ignored else .caught
  | none =>
    if signal = Signal.interrupt && s.isFirst && !s.has .standardInput then .caught else .usual

def applyTrap (signal : Nat) (action : Option String) : Run Unit := do
  unless ← mustStayIgnored signal do
    Run.call (.dispose signal (dispositionFor (← get) signal action))

def setTrap (signal : Nat) (action : Option String) : Run Unit := do
  modify fun s =>
    let others := s.traps.filter fun entry => entry.1 ≠ signal
    { s with traps := match action with
      | some action => (signal, action) :: others
      | none => others }
  unless signal = 0 do applyTrap signal action

namespace Builtin

def trap (args : List String) : Run Nat := do
  let (_, args) ← optionsOf "" args
  match args with
  | [] =>
    let shown := (← get).traps.mergeSort fun a b => a.1 ≤ b.1
    for (signal, action) in shown do
      let name := if signal = 0 then "EXIT" else Signal.nameOf signal
      say ("trap -- " ++ quoted action ++ " " ++ name ++ "\n")
    return 0
  | first :: names =>
    if names.isEmpty || (signalNumbered? first).isSome then go none args
    else go (if first = "-" then none else some first) names
where
  go (action : Option String) : List String → Run Nat
    | [] => return 0
    | name :: rest => do
      match trapSignal? name with
      | none =>
        tell ("trap: " ++ name ++ ": bad trap\n")
        return 1
      | some signal =>
        setTrap signal action
        go action rest

def killUsage : String :=
  "Usage: kill [-s sigspec | -signum | -sigspec] [pid | job]... or\nkill -l [exitstatus]"

def sendTo (signal : Nat) (target : String) : Run Nat := do
  let number : Int ← match target.toList with
    | '%' :: _ =>
      let j ← findJob target
      pure (-((j.members.head?.map Member.process).getD 0 : Int))
    | '-' :: rest => pure (-((← numberOf (String.ofList rest)) : Int))
    | _ => pure ((← numberOf target) : Int)
  match ← Run.call (.signal number signal) with
  | .ok () => return 0
  | .error e =>
    warn (e.message ++ "\n")
    return 1

def sendAll (signal : Nat) : List String → Nat → Run Nat
  | [], status => return status
  | target :: rest, status => do
    let one ← sendTo signal target
    sendAll signal rest (if one = 0 then status else one)

def listSignals (args : List String) : Run Nat := do
  match args with
  | [] =>
    say "0\n"
    for s in Signal.all do say (s.name ++ "\n")
  | arg :: _ =>
    let n ← numberOf arg
    let n := if 128 < n then n - 128 else n
    if 0 < n && n < Signal.limit then say (Signal.nameOf n ++ "\n")
    else fail ("invalid signal number or exit status: " ++ arg)
  return 0

def kill (args : List String) : Run Nat := do
  let direct? := match args with
    | first :: _ => match first.toList with
      | '-' :: name => signal? (String.ofList name)
      | _ => none
    | [] => none
  match direct? with
  | some signal =>
    if args.length = 1 then fail killUsage else sendAll signal (args.drop 1) 0
  | none =>
    let isOption := (args.headD "").startsWith "-"
    let (given, targets) ← if isOption then optionsOf "ls:" args else pure ([], args)
    let lists := given.any fun option => option.1 = 'l'
    let mut signal : Option Nat := none
    for (letter, value) in given do
      if letter = 's' then
        let name := value.getD ""
        signal := signal? name
        if signal.isNone then fail ("invalid signal number or name: " ++ name)
    if lists then
      if signal.isSome && !targets.isEmpty then fail killUsage else listSignals targets
    else if targets.isEmpty then fail killUsage
    else sendAll (signal.getD Signal.terminate) targets 0

/-! ## Jobs -/

def waitForAll : Nat → Run (Option Nat)
  | 0 => return none
  | fuel + 1 => do
    let s ← get
    let done := s.jobs.takeWhile Job.isDone
    let noted := done.map fun j => { j with waitedFor := true }
    set { s with jobs := noted ++ s.jobs.drop done.length }
    if s.jobs.all Job.isDone then return none
    else if ← await .untilSignal none then waitForAll fuel
    else
      takeArrivals
      return some (((← get).pending.getLast?).getD 0)

def waitForEach : List String → Nat → Run Nat
  | [], status => return status
  | target :: rest, _ => do
    let job ← if target.startsWith "%" then
        do
          let j ← findJob target
          pure (some j)
      else do
        let n ← numberOf target
        let isLast (j : Job) : Bool := (j.members.getLast?).any fun m => m.process = n
        pure ((← get).jobs.find? isLast)
    match job with
    | none => waitForEach rest 127
    | some j =>
      if ← await .untilSignal (some j.number) then
        let now := ((← get).job? j.number).getD j
        modify fun s => s.withJob { now with waitedFor := true }
        waitForEach rest now.status
      else
        takeArrivals
        return 128 + ((← get).pending.getLast?).getD 0

def wait (args : List String) : Run Nat := do
  let (_, targets) ← optionsOf "" args
  if targets.isEmpty then
    match ← waitForAll manyTimes with
    | some signal => return 128 + signal
    | none => return 0
  else waitForEach targets 127

def jobs (args : List String) : Run Nat := do
  let (given, names) ← optionsOf "lp" args
  let style := match lastOption given with
    | some 'l' => JobStyle.withProcesses
    | some _ => .firstProcess
    | none => .usual
  if names.isEmpty then
    takeNote
    for j in (← get).jobs do showJob style j
  else
    for name in names do showJob style (← findJob name)
  return 0

/-- Refuses to bring a job to the foreground or back, because jobs are not controlled. -/
def resume (args : List String) : Run Nat := do
  let (_, names) ← optionsOf "" args
  match names with
  | [] =>
    if (← get).jobs.isEmpty then fail "No current job"
    else fail "job (null) not created under job control"
  | name :: _ =>
    let _ ← findJob name
    fail ("job " ++ name ++ " not created under job control")

end Builtin

end Conformance.Shell

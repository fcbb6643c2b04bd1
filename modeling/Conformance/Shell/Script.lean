import Conformance.Shell.Job
import Conformance.Shell.Reader.Script

/-! # Running scripts

A script is read line by line, because what a command does can change how the next line is read. The
actions of traps are scripts too; they run between commands and at the end of the shell.
-/

namespace Conformance.Shell

open Conformance.System

structure Position where
  isLast : Bool := false
  /-- Whether the outcome of the command is looked at. -/
  isTested : Bool := false
deriving DecidableEq, Repr

abbrev Runner := Command → Position → Run Nat

/-! ## Reading -/

def chunkSize : Nat := 8192

/-- More of a script. Zero bytes are passed over. -/
def readMore (descriptor : Nat) : Nat → Run (List Char)
  | 0 => return []
  | fuel + 1 => do
    match ← Run.call (.read descriptor chunkSize) with
    | .ok [] => return []
    | .ok bytes =>
      let text := (ofBytes bytes).filter (· ≠ '\x00')
      if text.isEmpty then readMore descriptor fuel else return text
    | .error .interrupted => readMore descriptor fuel
    | .error _ => return []

structure ReadLine where
  line : Line
  reader : Reader
  text : List Char

/-- The lines of a text up to a number of line ends. -/
def linesUpTo : Nat → List Char → List Char
  | 0, _ => []
  | _, [] => []
  | lines + 1, c :: rest =>
    if c = '\n' then c :: linesUpTo lines rest else c :: linesUpTo (lines + 1) rest

def echoText (isFile : Bool) (text : List Char) : Run Unit := do
  if isFile && (← get).has .echoInput then tell (String.ofList text)

/-- Reads the next line of a script, of which more may come from a descriptor. -/
def readNext (descriptor : Option Nat) : Nat → Reader → Run ReadLine
  | 0, r => return ⟨.endOfFile, r, []⟩
  | fuel + 1, r => do
    let r := { r with aliases := (← get).aliases }
    match readLine.run r with
    | .ok (line, after) =>
      let text := if descriptor.isSome && (← get).has .echoInput then
          r.rest.take (r.rest.length - after.rest.length)
        else []
      return ⟨line, after, text⟩
    | .error .needsMore =>
      match descriptor with
      | none => readNext none fuel { r with complete := true }
      | some d =>
        let more ← readMore d manyTimes
        if more.isEmpty then readNext descriptor fuel { r with complete := true }
        else readNext descriptor fuel { r with rest := r.rest ++ more }
    | .error (.refused line complaint) =>
      echoText descriptor.isSome (linesUpTo (line - r.line + 1) r.rest)
      modify fun s => { s with line }
      fail complaint.message

def ReadLine.isLast (l : ReadLine) : Bool := l.reader.pushedBack && l.reader.token = .endOfFile

/-! ## Running -/

structure Source where
  descriptor : Option Nat := none
  isFirst : Bool := false
deriving DecidableEq, Repr

def runLines (run : Runner) (source : Source) (p : Position) : Nat → Reader → Nat → Run Nat
  | 0, _, status => return status
  | fuel + 1, r, status => do
    let l ← readNext source.descriptor manyTimes r
    echoText source.descriptor.isSome l.text
    modify fun s => { s with
      readLine := l.reader.line
      firstLine := if source.isFirst then l.reader.line else s.firstLine }
    match l.line with
    | .endOfFile => return status
    | .commands command =>
      let status ← match command with
        | some command => run command { p with isLast := p.isLast && l.isLast }
        | none => pure status
      if (← get).skip.isSome then return status
      else runLines run source p fuel l.reader status

def runText (run : Runner) (text : String) (p : Position) : Run Nat := do
  let before := (← get).readLine
  let status ← runLines run {} p manyTimes { rest := text.toList, complete := true } 0
  modify fun s => { s with readLine := before }
  return status

def Skip.isLeaving : Skip → Bool
  | .leaveFunction | .leaveAsIs => true
  | _ => false

def stopLeaving : Run Unit := modify fun s =>
  if s.skip.any Skip.isLeaving then { s with skip := none } else s

def runDescriptor (run : Runner) (descriptor : Nat) (isFirst : Bool) : Run Nat := do
  let before := (← get).readLine
  let source : Source := { descriptor := some descriptor, isFirst }
  let status ← runLines run source {} manyTimes { rest := [], complete := false } 0
  modify fun s => { s with readLine := before }
  stopLeaving
  return status

/-! ## Traps -/

def mergeSorted (new old : List Nat) : List Nat :=
  ((new.filter fun n => !old.contains n) ++ old).mergeSort

/-- Takes the signals that have been caught. The keyboard ends a shell that has no trap for it. -/
def takeArrivals : Run Unit := do
  let arrived ← Run.call .arrivals
  let s ← get
  let isTrapped (signal : Nat) : Bool := s.traps.any fun entry => entry.1 = signal
  if arrived.contains Signal.interrupt && !isTrapped Signal.interrupt then
    Run.lift (Action.crash Signal.interrupt)
  else set { s with pending := mergeSorted arrived s.pending }

def runTraps (run : Runner) : Run Unit := do
  let s ← get
  unless s.pending.isEmpty do
    let status := s.keptStatus.getD s.status
    set { s with keptStatus := some status }
    go status s.pending.length
    modify fun now => { now with keptStatus := s.keptStatus }
where
  go (status : Nat) : Nat → Run Unit
    | 0 => return
    | fuel + 1 => do
      let s ← get
      match s.pending with
      | [] => return
      | signal :: rest =>
        if s.skip.isSome then return
        else
          set { s with pending := rest }
          match s.traps.find? fun entry => entry.1 = signal with
          | some (_, action) =>
            let _ ← runText run action {}
            unless (← get).skip = some .leaveFunction do setStatus status
          | none => pure ()
          go status fuel

def spend (run : Runner) (time : Nat) : Run Unit := do
  let caught : Bool ← Run.call (.spend time)
  if caught then takeArrivals
  runTraps run

/-! ## The end -/

def closeRedirections (keeps : Bool) : Run Unit := do
  let s ← get
  set { s with redirected := s.redirected.drop 1 }
  for (descriptor, former) in s.redirected.headD [] do
    match former with
    | .closed => unless keeps do Run.call (.close descriptor)
    | .movedTo copy =>
      unless keeps do
        let _ ← Run.call (.duplicate copy descriptor)
      Run.call (.close copy)

/-- Puts back where descriptors led before the innermost redirections, up to a number of them. -/
def unwindRedirections (depth : Nat) : Run Unit := do
  let s ← get
  for _ in s.redirected.drop depth do closeRedirections false

def settle (halt : Option Halt) : Run Unit := do
  modify fun s =>
    let keeps := halt = some .exit || s.skip = some .leaveAsIs
    { s with
      status := if keeps then s.keptStatus.getD s.status else s.status
      keptStatus := none
      skip := none
      loops := 0
      tracing := false }
  unwindRedirections 0

def finish (run : Runner) : Ending := fun result s =>
  let halt := match result with
    | .ok _ => none
    | .error halt => some halt
  let last : Run Unit := do
    if halt.isSome then settle halt
    let s ← get
    match s.traps.find? fun entry => entry.1 = 0 with
    | none => pure ()
    | some (_, action) =>
      set { s with
        keptStatus := some s.status
        traps := s.traps.filter fun entry => entry.1 ≠ 0
        skip := none }
      match ← (runText run action {}).result with
      | .ok _ =>
        modify fun s => { s with skip := some .leaveAsIs }
        settle halt
      | .error halt => settle (some halt)
    let _ ← flush
  last s fun _ s => .exit s.status

end Conformance.Shell

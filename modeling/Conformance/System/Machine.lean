import Conformance.Process
import Conformance.System.Kernel
import Conformance.Shell.Start
import Conformance.Utility.Cat
import Conformance.Utility.Printf
import Conformance.Utility.Seq
import Conformance.Utility.Sleep
import Conformance.Utility.Tail

/-! # The machine

A system with a shell and a few utilities, as the harness runs processes on it. A process that the
harness starts leads a group; when the time limit has passed, its group is killed. The harness
listens to what is written until its pipes are closed or its deadline has come.
-/

namespace Conformance.System

/-! ## Programs -/

def utilities : List (String × (String → List String → Action Nat)) :=
  [("cat", Utility.Cat.run), ("echo", Utility.Printf.echo), ("false", fun _ _ => return 1),
    ("printf", Utility.Printf.run), ("seq", Utility.Seq.run), ("sleep", Utility.Sleep.run),
    ("tail", Utility.Tail.run), ("true", fun _ _ => return 0)]

def programs : Programs := fun name args environment =>
  match utilities.find? fun entry => entry.1 = name with
  | some (_, run) => (run (args.headD name) (args.drop 1)).toAct
  | none => Shell.process args environment

/-! ## Files -/

def workplace : List String := ["tmp", "work"]

def programFiles : Tree :=
  .dir (("sh", .link "dash") :: ("dash", .program "dash") ::
    utilities.map fun entry => (entry.1, .program entry.1))

def deviceFiles : Tree :=
  .dir [("null", .device .null), ("zero", .device .zero), ("full", .device .full),
    ("tty", .device .terminal), ("fd", .link "/proc/self/fd"), ("stdin", .link "/proc/self/fd/0"),
    ("stdout", .link "/proc/self/fd/1"), ("stderr", .link "/proc/self/fd/2")]

def descriptorFiles : Tree :=
  .dir ((List.range 10).map fun n => (toString n, .device (.descriptor n)))

def treeAround (work : Tree) : Tree :=
  .dir [("bin", .link "usr/bin"), ("dev", deviceFiles), ("etc", .dir []),
    ("proc", .dir [("self", .dir [("fd", descriptorFiles)])]), ("root", .dir []),
    ("tmp", .dir [("work", work)]), ("usr", .dir [("bin", programFiles)])]

def filesAround (work : Tree) : Files := { top := treeAround work, here := workplace }

namespace World

def ofFiles (f : Files) : World :=
  { files := { f with top := f.top.rename inward, here := f.here.map inward, isRaw := true } }

def filesOutside (w : World) : Files :=
  let name (text : String) : String := (outward? text).getD text
  { top := w.files.top.rename name, here := w.files.here.map name }

def withChange (w : World) (path : String) (change : Files → Files) : World :=
  let files := (ofFiles (change w.filesOutside)).files
  let place := (files.locate? (inward path)).getD []
  { w with
    files
    version := w.version + 1
    stamps := (place, w.now / stampInterval) :: w.stamps.filter fun entry => entry.1 ≠ place }

/-! ## Starting a process -/

def environment : Environment :=
  [("PATH", "/usr/local/sbin:/usr/local/bin:/usr/sbin:/usr/bin:/sbin:/bin"), ("HOME", "/root")]

def pathsOf (executable : String) : List String :=
  if executable.toList.contains '/' then [executable]
  else Shell.pathsAlong (some (((environment.find? fun entry => entry.1 = "PATH").map
    Prod.snd).getD "")) executable

def isPassable (text : String) : Bool := !text.toList.contains '\x00'

def addCapture (w : World) : World × Nat :=
  ({ w with captures := (w.nextNumber, {}) :: w.captures, nextNumber := w.nextNumber + 1 },
    w.nextNumber)

/-- A process that the harness has started, and the listeners at its pipes. -/
structure Started where
  process : Nat
  stdout : Nat
  stderr : Nat

def start (w : World) (name : String) (args : List String) : World × Started :=
  let (w, stdout) := w.addCapture
  let (w, stderr) := w.addCapture
  let (w, nothing) := w.addPort (.device .null)
  let (w, output) := w.addPort (.capture stdout)
  let (w, errors) := w.addPort (.capture stderr)
  let id := w.nextProcess
  let p : Process :=
    { id, parent := outside, group := id, clock := w.now + startTime
      act := programs name args environment
      descriptors := [(0, nothing), (1, output), (2, errors)]
      here := w.files.here }
  ({ w with processes := w.processes ++ [p], nextProcess := id + 1 }, ⟨id, stdout, stderr⟩)

def programOf? (w : World) (executable : String) (args : List String) : Option String :=
  if executable.isEmpty || !isPassable executable || !args.all isPassable ||
      tooLong (executable :: args) environment then none
  else (pathsOf executable).findSome? fun path => (programAt w.files path).toOption

/-! ## Observing a process -/

def endOf? (w : World) (id : Nat) : Option Ended := (w.process? id).bind Process.ended

def statusOf : Ended → Status
  | .exited code => .exited code
  | .killed signal => .signaled signal

def pipeSince (w : World) (begin number : Nat) : Pipe where
  chunks := (w.capture number).chunks.reverse.map fun chunk => (chunk.1 - begin, chunk.2)
  closed := (w.capture number).closed.map (· - begin)

def killGroup (w : World) (group : Nat) : World :=
  let members := w.processes.filter fun q => q.group = group
  members.foldl (fun w q => w.send q.id Signal.kill) w

/-- The listeners leave, and the process is forgotten. -/
def leave (w : World) (s : Started) : World :=
  let w : World := { w with
    processes := w.processes.filter fun q => q.id ≠ s.process
    captures := w.captures.map fun entry =>
      if entry.1 = s.stdout || entry.1 = s.stderr then (entry.1, { entry.2 with abandoned := true })
      else entry }
  w.tidy

def manySteps : Nat := 1000000000000000

def waitUntil (w : World) (moment : Nat) : World :=
  if w.now < moment then w.run programs (some moment) (fun _ => false) manySteps else w

def drain (w : World) (s : Started) (moment : Option Nat) : World :=
  let isClosed (w : World) : Bool :=
    (w.capture s.stdout).closed.isSome && (w.capture s.stderr).closed.isSome
  w.run programs moment isClosed manySteps

/-- The moment at which the clock of the harness stands when processes start: it has been running
for a while. -/
def startOfProcesses : Instant := ⟨1000000000000⟩

/-- Lets a process run until the harness has its answer. -/
def observe (w : World) (s : Started) (timeout : Option Duration) : Behaviour World :=
  let begin := w.now
  let micros (nanos : Nat) : Nat := begin + nanos / Process.micro
  let expiry := timeout.map fun limit => micros (Process.lookAfter limit.toNanos)
  let isOver (w : World) : Bool := (w.process? s.process).all fun p => p.ended.isSome
  let w := w.run programs expiry isOver manySteps
  let ending := match w.endOf? s.process with
    | some how => Ending.ended (w.now - begin) (statusOf how)
    | none => .endless
  let w := match Process.wait ending timeout with
    | .ok (.ended time _) => w.waitUntil (micros time)
    | .ok (.expired time) => (w.waitUntil (micros time)).killGroup s.process
    | _ => w
  let deadline : Except Stall (Option Instant) := do
    let waited ← Process.wait ending timeout
    Process.pipeDeadline startOfProcesses waited timeout
  let w := match deadline with
    | .ok deadline =>
      w.drain s (deadline.map fun (moment : Instant) => micros (moment.nanos - startOfProcesses.nanos))
    | .error _ => w
  { stdout := w.pipeSince begin s.stdout
    stderr := w.pipeSince begin s.stderr
    ending
    after := w.leave s }

end World

def machine : Machine World where
  files := World.filesOutside
  launch w executable args timeout :=
    let executable := inward executable
    let args := args.map inward
    (w.programOf? executable args).map fun name =>
      let (w, started) := w.start name (executable :: args)
      w.observe started timeout
  start := World.startOfProcesses

end Conformance.System

import Conformance.Clock
import Conformance.Interpreter
import Conformance.Status
import Conformance.Tree
import Conformance.Verdict
import Conformance.Fault

/-! # Processes

What a process does after it is started, as far as the harness can see it, and what the harness
makes of it. The harness looks at the process every ten milliseconds. When it has ended, the pipes
are read until they close; with a time limit, no longer than that limit or a short grace. When the
limit has passed, the process and all it started are killed, and the pipes are read for the grace.
-/

namespace Conformance

/-- What came out of a pipe: chunks with the microsecond of their arrival, in order, and when the
last writer closed it, if ever. -/
structure Pipe where
  chunks : List (Nat × List UInt8) := []
  closed : Option Nat := some 0
deriving DecidableEq, Repr

/-- How the process ends. Times are microseconds after its start. -/
inductive Ending where
  | ended (time : Nat) (status : Status)
  | endless
  /-- The system refuses to tell. -/
  | lost
deriving DecidableEq, Repr

structure Behaviour (World : Type) where
  stdout : Pipe := {}
  stderr : Pipe := {}
  ending : Ending
  after : World

structure Machine (World : Type) where
  files : World → Files
  /-- How an executable behaves with given arguments if it is killed after a time limit. Nothing is
  the answer if it cannot be started. -/
  launch : World → (executable : String) → (args : List String) → (timeout : Option Duration) →
    Option (Behaviour World)
  start : Instant

inductive Stall where
  | pastLastMoment
  /-- The process or a pipe never ends, and there is no time limit. -/
  | endless
deriving DecidableEq, Repr

abbrev Work (World α : Type) : Type := StateT World (Except Stall) α

inductive RunResult where
  | completed (output : Output)
  | timedOut (after : Duration) (stdout stderr : String)
deriving DecidableEq, Repr

namespace Process

def micro : Nat := 1000

/-- The time between two looks at the process, in nanoseconds. -/
def pollInterval : Nat := 10000000

/-- How long pipes are read after the process is gone. -/
def pipeGrace : Duration := .ofMillis 250

/-- The time of the first look that is not before `time`. -/
def lookAfter (time : Nat) : Nat := (time + (pollInterval - 1)) / pollInterval * pollInterval

/-- What waiting for a process comes to, with the nanoseconds that it took. -/
inductive Waited where
  | ended (time : Nat) (status : Status)
  | expired (time : Nat)
  | lost
deriving DecidableEq, Repr

def wait (ending : Ending) (timeout : Option Duration) : Except Stall Waited :=
  match ending, timeout with
  | .lost, _ => .ok .lost
  | .ended time status, none => .ok (.ended (time * micro) status)
  | .endless, none => .error .endless
  | .ended time status, some limit =>
    let noticed := lookAfter (time * micro)
    let expiry := lookAfter limit.toNanos
    .ok (if noticed ≤ expiry then .ended noticed status else .expired expiry)
  | .endless, some limit => .ok (.expired (lookAfter limit.toNanos))

/-- The moment until which pipes are read after a process is gone: the time limit or the grace,
whichever is later, and the grace alone if the process was killed. Without limit they are read until
they close. -/
def pipeDeadline (start : Instant) (waited : Waited) (timeout : Option Duration) :
    Except Stall (Option Instant) :=
  let byGrace (gone : Nat) : Except Stall Instant :=
    match start.add? ⟨0, gone + pipeGrace.toNanos⟩ with
    | some deadline => .ok deadline
    | none => .error .pastLastMoment
  let byBoth (gone : Nat) : Except Stall (Option Instant) :=
    match timeout with
    | none => .ok none
    | some limit =>
      match start.add? limit with
      | some byLimit => (byGrace gone).map fun deadline => some (byLimit.latest deadline)
      | none => .error .pastLastMoment
  match waited with
  | .expired time => (byGrace time).map some
  | .ended time _ => byBoth time
  | .lost => byBoth 0

def bytesUntil (p : Pipe) (time : Nat) : List UInt8 :=
  (p.chunks.filter fun chunk => chunk.1 * micro ≤ time).flatMap Prod.snd

/-- The text read from a pipe up to a deadline, or until it closes. -/
def collect (start : Instant) (p : Pipe) : (deadline : Option Instant) → Except Stall String
  | some deadline =>
    .ok (String.ofList (Text.decodeLossy (bytesUntil p (deadline.nanos - start.nanos))))
  | none =>
    if p.closed.isSome then
      .ok (String.ofList (Text.decodeLossy (p.chunks.flatMap Prod.snd)))
    else .error .endless

def observe {World : Type} (b : Behaviour World) (start : Instant) (timeout : Option Duration)
    (path : String) : Except Stall (Except Fault RunResult) := do
  let waited ← wait b.ending timeout
  let deadline ← pipeDeadline start waited timeout
  let stdout ← collect start b.stdout deadline
  let stderr ← collect start b.stderr deadline
  match waited with
  | .expired _ => return .ok (.timedOut (timeout.getD ⟨0, 0⟩) stdout stderr)
  | .lost => return .error (.notAwaited path)
  | .ended _ status =>
    match status with
    | .exited exitCode => return .ok (.completed { stdout, stderr, exitCode })
    | .signaled signal => return .error (.killed path signal)
    | .unknown => return .error (.unknownStatus path)

end Process

def Interpreter.run {World : Type} (i : Interpreter) (m : Machine World) (path : String) :
    Work World (Except Fault RunResult) := fun w =>
  match m.launch w i.executable (i.arguments path) i.timeout with
  | none => .ok (.error (.notStarted i.executable), w)
  | some b =>
    (Process.observe b m.start i.timeout path).map fun result => (result, b.after)

end Conformance

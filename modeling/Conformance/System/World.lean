import Conformance.System.Signal
import Conformance.System.Call

/-! # The state of a system

Files, processes and what processes have opened. A process has its own clock: the moment at which
it goes on. What a descriptor leads to is a port; processes share ports.
-/

namespace Conformance.System

structure Queue where
  front : List UInt8 := []
  /-- What was written after the front, newest first. -/
  back : List (List UInt8) := []
  size : Nat := 0

namespace Queue

def put (q : Queue) (bytes : List UInt8) : Queue :=
  { q with back := bytes :: q.back, size := q.size + bytes.length }

def take (q : Queue) (limit : Nat) : List UInt8 × Queue :=
  let front := if q.front.isEmpty then q.back.reverse.flatten else q.front
  let back := if q.front.isEmpty then [] else q.back
  let taken := front.take limit
  (taken, ⟨front.drop limit, back, q.size - taken.length⟩)

def capacity : Nat := 65536

/-- How many bytes are written together or not at all. -/
def block : Nat := 4096

end Queue

structure Capture where
  /-- What was written with its moments, newest first. -/
  chunks : List (Nat × List UInt8) := []
  closed : Option Nat := none
  /-- Whether the listener has left. It notices only when something more is written. -/
  abandoned : Bool := false
  broken : Bool := false

structure OpenFile where
  place : List String
  access : Access
  offset : Nat := 0
  /-- What follows the offset, with the version of the files that it was seen in. -/
  rest : Option (Nat × List UInt8) := none

inductive Port where
  | device (kind : Device)
  | directory (place : List String)
  | reader (pipe : Nat)
  | writer (pipe : Nat)
  | capture (number : Nat)
  | file (f : OpenFile)

structure Process where
  id : Nat
  parent : Nat
  group : Nat
  /-- The moment at which the process goes on. -/
  clock : Nat
  act : Act
  descriptors : List (Nat × Nat)
  here : List String
  dispositions : List (Nat × Disposition) := []
  arrived : List Nat := []
  /-- Whether the process is held up, and the signals that wait until it goes on. -/
  stopped : Bool := false
  held : List Nat := []
  /-- Whether the process has found a pipe full. It waits until a block fits. -/
  waitsForRoom : Bool := false
  ended : Option Ended := none
deriving Inhabited

namespace Process

def port? (p : Process) (descriptor : Nat) : Option Nat :=
  (p.descriptors.find? fun entry => entry.1 = descriptor).map Prod.snd

def dispositionOf (p : Process) (signal : Nat) : Disposition :=
  ((p.dispositions.find? fun entry => entry.1 = signal).map Prod.snd).getD .usual

def withDescriptor (p : Process) (descriptor port : Nat) : Process :=
  { p with descriptors :=
      (descriptor, port) :: p.descriptors.filter fun entry => entry.1 ≠ descriptor }

def freeDescriptor (p : Process) (least : Nat) : Nat :=
  let candidates := (List.range (p.descriptors.length + 1)).map (least + ·)
  (candidates.find? fun n => (p.port? n).isNone).getD least

def isDoomed (p : Process) : Bool :=
  match p.act with
  | .crash _ => true
  | _ => false

def isRunning (p : Process) : Bool := p.ended.isNone && !p.stopped

end Process

structure World where
  /-- The moment that has been reached, in microseconds. -/
  now : Nat := 0
  /-- The files, seen from the directory of those who start processes. -/
  files : Files
  /-- All processes that have not been waited for, in the order of their numbers. -/
  processes : List Process := []
  ports : List (Nat × Port) := []
  pipes : List (Nat × Queue) := []
  captures : List (Nat × Capture) := []
  stamps : List (List String × Nat) := []
  version : Nat := 0
  nextProcess : Nat := 1000
  nextNumber : Nat := 0
deriving Inhabited

namespace World

def process? (w : World) (id : Nat) : Option Process := w.processes.find? fun p => p.id = id

def withProcess (w : World) (p : Process) : World :=
  { w with processes := w.processes.map fun q => if q.id = p.id then p else q }

def port? (w : World) (number : Nat) : Option Port :=
  (w.ports.find? fun entry => entry.1 = number).map Prod.snd

def withPort (w : World) (number : Nat) (port : Port) : World :=
  { w with ports := (number, port) :: w.ports.filter fun entry => entry.1 ≠ number }

def pipe (w : World) (number : Nat) : Queue :=
  ((w.pipes.find? fun entry => entry.1 = number).map Prod.snd).getD {}

def withPipe (w : World) (number : Nat) (q : Queue) : World :=
  { w with pipes := w.pipes.map fun entry => if entry.1 = number then (number, q) else entry }

def capture (w : World) (number : Nat) : Capture :=
  ((w.captures.find? fun entry => entry.1 = number).map Prod.snd).getD {}

def withCapture (w : World) (number : Nat) (c : Capture) : World :=
  { w with captures :=
      w.captures.map fun entry => if entry.1 = number then (number, c) else entry }

def isOpen (w : World) (p : Port → Bool) : Bool :=
  w.processes.any fun q => q.descriptors.any fun entry => (w.port? entry.2).any p

def hasWriter (w : World) (pipe : Nat) : Bool :=
  w.isOpen fun port => match port with
    | .writer n => n = pipe
    | _ => false

def hasReader (w : World) (pipe : Nat) : Bool :=
  w.isOpen fun port => match port with
    | .reader n => n = pipe
    | _ => false

def hasSpeaker (w : World) (number : Nat) : Bool :=
  w.isOpen fun port => match port with
    | .capture n => n = number
    | _ => false

/-- Forgets what no descriptor leads to any more, and notes what has been closed. -/
def tidy (w : World) : World :=
  let used (number : Nat) : Bool :=
    w.processes.any fun q => q.descriptors.any fun entry => entry.2 = number
  let w := { w with ports := w.ports.filter fun entry => used entry.1 }
  let pipes := w.pipes.filter fun entry => w.ports.any fun port => match port.2 with
    | .reader n | .writer n => n = entry.1
    | _ => false
  let captures := w.captures.map fun entry =>
    if entry.2.closed.isNone && !w.hasSpeaker entry.1 then
      (entry.1, { entry.2 with closed := some w.now })
    else entry
  { w with
    pipes
    captures := captures.filter fun entry => !(entry.2.closed.isSome && entry.2.abandoned) }

def stamp (w : World) (place : List String) : Nat :=
  ((w.stamps.find? fun entry => entry.1 = place).map Prod.snd).getD 0

/-- The microseconds between two moments that files can tell apart. -/
def stampInterval : Nat := 4000

def putTree (w : World) (place : List String) (t : Tree) : World :=
  { w with
    files := { w.files with top := w.files.top.put t place }
    version := w.version + 1
    stamps := (place, w.now / stampInterval) ::
      w.stamps.filter fun entry => entry.1 ≠ place }

def filesOf (w : World) (p : Process) : Files := { w.files with here := p.here }

end World

end Conformance.System

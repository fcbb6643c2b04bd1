import Conformance.System.Error

/-! # What processes ask of the system

A process is what it does next: it ends, makes another process, becomes another program, or asks the
system for something and goes on with the answer. An action is a computation that may ask the system;
it is a function of what is done after it.

Texts are bytes, one for each character.
-/

namespace Conformance.System

def bytesOf (text : List Char) : List UInt8 := text.map fun c => c.toNat.toUInt8

def ofBytes (bytes : List UInt8) : List Char := bytes.map fun b => Char.ofNat b.toNat

def inward (text : String) : String := String.ofList (ofBytes (Text.encode text.toList))

def outward? (text : String) : Option String :=
  (Text.decode? (bytesOf text.toList)).map String.ofList

/-- How a file is opened. -/
structure Access where
  reads : Bool := false
  writes : Bool := false
  makes : Bool := false
  /-- There must be no file yet. -/
  isNew : Bool := false
  /-- What the file holds is dropped. -/
  empties : Bool := false
  appends : Bool := false
deriving DecidableEq, Repr

namespace Access

def input : Access := { reads := true }
def both : Access := { reads := true, writes := true, makes := true }
def output : Access := { writes := true, makes := true, empties := true }
def append : Access := { writes := true, makes := true, appends := true }
def fresh : Access := { writes := true, makes := true, isNew := true }
def existing : Access := { writes := true }

end Access

inductive FileKind where
  | regular | directory | link | device | pipe
deriving DecidableEq, Repr

structure FileInfo where
  kind : FileKind
  size : Nat := 0
  executable : Bool := false
  /-- What tells the file from others. -/
  identity : List String
  changed : Nat := 0
  position : Nat := 0
deriving DecidableEq, Repr

inductive Disposition where
  | usual | ignored | caught
deriving DecidableEq, Repr

/-- How long a process waits for another one to end. -/
inductive Patience where
  | none
  /-- Until one has ended. -/
  | unlimited
  /-- Until one has ended or a signal is caught. -/
  | untilSignal
deriving DecidableEq, Repr

inductive Ended where
  | exited (code : Nat)
  | killed (signal : Nat)
deriving DecidableEq, Repr

inductive Call where
  /-- Takes a number of microseconds; the answer is whether a caught signal waits to be taken. -/
  | spend (time : Nat)
  /-- Waits for a number of microseconds, or for ever; the answer is whether a signal was caught. -/
  | sleep (time : Option Nat)
  | openFile (path : String) (access : Access)
  | close (descriptor : Nat)
  /-- Makes a descriptor lead where another one does. -/
  | duplicate (descriptor target : Nat)
  /-- The lowest free descriptor that is not below `least` is made to lead where another one does. -/
  | duplicateAbove (descriptor least : Nat)
  | pipe
  | read (descriptor limit : Nat)
  | write (descriptor : Nat) (bytes : List UInt8)
  | seek (descriptor offset : Nat)
  | inspect (path : String) (follow : Bool)
  | inspectDescriptor (descriptor : Nat)
  | list (path : String)
  | changeDirectory (path : String)
  | whereAmI
  /-- The number of the process and that of its parent. -/
  | whoAmI
  | await (patience : Patience)
  /-- Sends a signal to a process or, for numbers below zero, to a group. -/
  | signal (target : Int) (number : Nat)
  | dispose (number : Nat) (disposition : Disposition)
  | disposition (number : Nat)
  | arrivals

def Call.Reply : Call → Type
  | .spend _ => Bool
  | .sleep _ => Bool
  | .openFile .. => Except Error Nat
  | .close _ => Unit
  | .duplicate .. => Except Error Unit
  | .duplicateAbove .. => Except Error Nat
  | .pipe => Nat × Nat
  | .read .. => Except Error (List UInt8)
  | .write .. => Except Error Unit
  | .seek .. => Except Error Unit
  | .inspect .. => Except Error FileInfo
  | .inspectDescriptor _ => Except Error FileInfo
  | .list _ => Except Error (List String)
  | .changeDirectory _ => Except Error Unit
  | .whereAmI => String
  | .whoAmI => Nat × Nat
  | .await _ => Except Error (Option (Nat × Ended))
  | .signal .. => Except Error Unit
  | .dispose .. => Unit
  | .disposition _ => Disposition
  | .arrivals => List Nat

abbrev Environment := List (String × String)

inductive Act where
  | exit (code : Nat)
  /-- Ends by a signal that cannot be caught. -/
  | crash (signal : Nat)
  | call (c : Call) (next : c.Reply → Act)
  | fork (child : Act) (next : Nat → Act)
  /-- Becomes the program that a path leads to; if that fails, it goes on. -/
  | exec (path : String) (args : List String) (environment : Environment) (next : Error → Act)

instance : Inhabited Act := ⟨.exit 0⟩

/-- A computation that may ask the system, as a function of what is done after it. -/
def Action (α : Type) : Type := (α → Act) → Act

namespace Action

instance : Monad Action where
  pure a := fun next => next a
  bind action f := fun next => action fun a => f a next

def call (c : Call) : Action c.Reply := fun next => .call c next

def exec (path : String) (args : List String) (environment : Environment) : Action Error :=
  fun next => .exec path args environment next

def exit {α : Type} (code : Nat) : Action α := fun _ => .exit code

def crash {α : Type} (signal : Nat) : Action α := fun _ => .crash signal

/-- What a process does whose whole work is an action. -/
def toAct (action : Action Nat) : Act := action fun code => .exit code

end Action

end Conformance.System

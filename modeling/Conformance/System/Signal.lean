/-! # Signals

The signals of the system: their names, what is said of a process that one has ended, and what they
do to a process that has not asked for anything else.
-/

namespace Conformance.System

structure Signal where
  number : Nat
  name : String
  words : String
deriving DecidableEq, Repr

namespace Signal

def common : List Signal :=
  [⟨1, "HUP", "Hangup"⟩, ⟨2, "INT", "Interrupt"⟩, ⟨3, "QUIT", "Quit"⟩,
    ⟨4, "ILL", "Illegal instruction"⟩, ⟨5, "TRAP", "Trace/breakpoint trap"⟩,
    ⟨6, "ABRT", "Aborted"⟩, ⟨7, "BUS", "Bus error"⟩, ⟨8, "FPE", "Floating point exception"⟩,
    ⟨9, "KILL", "Killed"⟩, ⟨10, "USR1", "User defined signal 1"⟩,
    ⟨11, "SEGV", "Segmentation fault"⟩, ⟨12, "USR2", "User defined signal 2"⟩,
    ⟨13, "PIPE", "Broken pipe"⟩, ⟨14, "ALRM", "Alarm clock"⟩, ⟨15, "TERM", "Terminated"⟩,
    ⟨16, "16", "Stack fault"⟩, ⟨17, "CHLD", "Child exited"⟩, ⟨18, "CONT", "Continued"⟩,
    ⟨19, "STOP", "Stopped (signal)"⟩, ⟨20, "TSTP", "Stopped"⟩,
    ⟨21, "TTIN", "Stopped (tty input)"⟩, ⟨22, "TTOU", "Stopped (tty output)"⟩,
    ⟨23, "URG", "Urgent I/O condition"⟩, ⟨24, "XCPU", "CPU time limit exceeded"⟩,
    ⟨25, "XFSZ", "File size limit exceeded"⟩, ⟨26, "VTALRM", "Virtual timer expired"⟩,
    ⟨27, "PROF", "Profiling timer expired"⟩, ⟨28, "WINCH", "Window changed"⟩,
    ⟨29, "IO", "I/O possible"⟩, ⟨30, "PWR", "Power failure"⟩, ⟨31, "SYS", "Bad system call"⟩,
    ⟨32, "32", "Unknown signal 32"⟩, ⟨33, "33", "Unknown signal 33"⟩]

/-- The name of a signal for other uses, by its distance from the first of them. They are named from
both ends. -/
def spareName (n : Nat) : String :=
  if n = 0 then "RTMIN"
  else if n ≤ 15 then "RTMIN+" ++ toString n
  else if n < 30 then "RTMAX-" ++ toString (30 - n)
  else "RTMAX"

def spare : List Signal :=
  (List.range 31).map fun n => ⟨34 + n, spareName n, "Real-time signal " ++ toString n⟩

def all : List Signal := common ++ spare

def limit : Nat := 65

def nameOf (number : Nat) : String := ((all.find? (·.number = number)).map Signal.name).getD ""

def wordsOf (number : Nat) : String :=
  ((all.find? (·.number = number)).map Signal.words).getD
    ("Unknown signal " ++ toString number)

/-- The numbers of signals that the shell itself speaks of. -/
def hangUp : Nat := 1
def interrupt : Nat := 2
def quit : Nat := 3
def arithmetic : Nat := 8
def kill : Nat := 9
def brokenPipe : Nat := 13
def terminate : Nat := 15
def childEnded : Nat := 17
def goOn : Nat := 18
def stop : Nat := 19

/-- Whether a signal does nothing to a process that does not ask for it. -/
def isHarmless (number : Nat) : Bool :=
  number = 17 || number = 18 || number = 23 || number = 28

/-- Whether a signal holds a process up that does not ask for anything else. -/
def isStopping (number : Nat) : Bool := 19 ≤ number && number ≤ 22

end Signal

end Conformance.System

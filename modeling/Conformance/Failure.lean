import Conformance.Binary64
import Conformance.Text.Lines

/-! # Failures

One way in which an interpreter did not do what a fixture expects: a headline, and lines of process
output as context.
-/

namespace Conformance

open Conformance.Text (outputLines)

structure Failure where
  message : String
  context : List String := []
deriving DecidableEq, Repr

/-- A span of time: whole seconds and nanoseconds below one second. -/
structure Duration where
  seconds : Nat
  nanos : Nat := 0
deriving DecidableEq, Repr

namespace Duration

def ofMillis (ms : Nat) : Duration := ⟨ms / 1000, ms % 1000 * 1000000⟩

def toMillis (d : Duration) : Nat := d.seconds * 1000 + d.nanos / 1000000

end Duration

namespace Failure

def maxReportedLines : Nat := 10

def truncationMark (hidden : Nat) : String :=
  "(truncated " ++ toString hidden ++ " more...)"

/-- The first lines as context, and a mark for the others. -/
def shown (lines : List (List Char)) : List String :=
  let first := (lines.take maxReportedLines).map String.ofList
  if lines.length > maxReportedLines then
    first ++ [truncationMark (lines.length - maxReportedLines)]
  else first

def timedOut (after : Duration) (stderr : String) : Failure where
  message :=
    "Timed out after " ++ Binary64.onePlace (Binary64.seconds after.seconds after.nanos) ++
      "s. Stderr:"
  context := shown (outputLines stderr.toList)

def lines (f : Failure) : List String := f.message :: f.context

def text (f : Failure) : String :=
  String.intercalate "\n" f.lines

end Failure

end Conformance

import Conformance.Failure

/-! # Clock

Moments on a clock that starts at zero and has a last moment. Adding a duration may lead past it.
-/

namespace Conformance

namespace Duration

def toNanos (d : Duration) : Nat := d.seconds * 1000000000 + d.nanos

end Duration

/-- A moment, in nanoseconds since the start of the clock. -/
structure Instant where
  nanos : Nat
deriving DecidableEq, Repr

namespace Instant

/-- The last moment: the clock counts seconds in 63 bits. -/
def last : Instant := ⟨0x7FFFFFFFFFFFFFFF * 1000000000 + 999999999⟩

/-- The moment a duration later, if the clock has it. -/
def add? (i : Instant) (d : Duration) : Option Instant :=
  if i.nanos + d.toNanos ≤ last.nanos then some ⟨i.nanos + d.toNanos⟩ else none

def latest (i j : Instant) : Instant := if i.nanos ≤ j.nanos then j else i

end Instant

end Conformance

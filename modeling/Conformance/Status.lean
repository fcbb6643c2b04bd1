/-! # Wait statuses

How a process ended, as the low sixteen bits of a wait status tell it.
-/

namespace Conformance

inductive Status where
  | exited (code : Int)
  | signaled (signal : Int)
  | unknown
deriving DecidableEq, Repr

namespace Status

/-- Reads a wait status: the low seven bits are zero after an exit, with the code in the next byte,
and hold the signal otherwise. All seven bits set is neither. -/
def ofRaw (raw : Int) : Status :=
  let low := raw % 128
  if low = 0 then .exited (raw / 256 % 256)
  else if low = 127 then .unknown
  else .signaled low

end Status

end Conformance

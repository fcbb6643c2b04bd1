import Conformance.Tree

/-! # Errors of the system

Why the system refuses what a process asks for, with the words that go with each reason.
-/

namespace Conformance.System

inductive Error where
  | missing
  | notDirectory
  | tooManyLinks
  | nameTooLong
  | isDirectory
  | taken
  | denied
  | badDescriptor
  | interrupted
  | brokenPipe
  | noChild
  | noProcess
  | noSpace
  | illegalSeek
  | invalidArgument
  | listTooLong
  | noDevice
deriving DecidableEq, Repr

namespace Error

def message : Error → String
  | .missing => "No such file or directory"
  | .notDirectory => "Not a directory"
  | .tooManyLinks => "Too many levels of symbolic links"
  | .nameTooLong => "File name too long"
  | .isDirectory => "Is a directory"
  | .taken => "File exists"
  | .denied => "Permission denied"
  | .badDescriptor => "Bad file descriptor"
  | .interrupted => "Interrupted system call"
  | .brokenPipe => "Broken pipe"
  | .noChild => "No child processes"
  | .noProcess => "No such process"
  | .noSpace => "No space left on device"
  | .illegalSeek => "Illegal seek"
  | .invalidArgument => "Invalid argument"
  | .listTooLong => "Argument list too long"
  | .noDevice => "No such device or address"

def ofLost : Tree.Lost → Error
  | .missing => .missing
  | .notDirectory => .notDirectory
  | .tooManyLinks => .tooManyLinks
  | .nameTooLong => .nameTooLong

end Error

end Conformance.System

import Conformance.Directive
import Conformance.Diagnostic

/-! # Expectations

Everything a fixture expects of an interpreter, as its directives add it up.
-/

namespace Conformance

structure ExitCodes where
  compileError : Int := 65
  runtimeError : Int := 70
deriving DecidableEq, Repr

structure ExpectedOutput where
  line : Nat
  text : String
deriving DecidableEq, Repr

structure ExpectedRuntimeError where
  line : Nat
  message : String
deriving DecidableEq, Repr

structure Expectations where
  output : List ExpectedOutput := []
  /-- Compile errors in normal form, in the order of their directives. -/
  errors : List String := []
  runtimeError : Option ExpectedRuntimeError := none
  exitCode : Int := 0
  /-- How many directives applied. -/
  count : Nat := 0
deriving DecidableEq, Repr

namespace Expectations

def addError (e : Expectations) (error : String) : Expectations :=
  if error ∈ e.errors then e else { e with errors := e.errors ++ [error] }

def isConflicting (e : Expectations) : Bool :=
  e.runtimeError.isSome && !e.errors.isEmpty

def isEmpty (e : Expectations) : Bool := e.count = 0

/-- The effect of a directive, without the count. -/
def addDirective (codes : ExitCodes) (line : Nat) (e : Expectations) : Directive → Expectations
  | .output text => { e with output := e.output ++ [⟨line, text⟩] }
  | .error message =>
    { e.addError (Diagnostic.format (toString line) message) with exitCode := codes.compileError }
  | .errorAt _ at_ message =>
    { e.addError (Diagnostic.format at_ message) with exitCode := codes.compileError }
  | .runtimeError message =>
    { e with runtimeError := some ⟨line, message⟩, exitCode := codes.runtimeError }

/-- The effect of a line that holds a directive. A directive for another language has none. -/
def record (codes : ExitCodes) (language : Option String) (line : Nat) (e : Expectations)
    (d : Directive) : Expectations :=
  if d.applies language then
    { e.addDirective codes line d with count := e.count + 1 }
  else e

end Expectations

end Conformance

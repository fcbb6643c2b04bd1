import Conformance.Directive

/-! # Diagnostics

What an interpreter writes to its error stream: compile errors, which name a line, and the frames
of a stack trace.
-/

namespace Conformance

open Conformance.Text (after? run? leftmost isDigit)

structure Diagnostic where
  line : List Char
  message : List Char
deriving DecidableEq, Repr

namespace Diagnostic

/-- The form in which expected and reported compile errors are compared. -/
def format (line message : String) : String :=
  "[" ++ line ++ "] " ++ message

def normalForm (d : Diagnostic) : String :=
  format (String.ofList d.line) (String.ofList d.message)

/-- `N] Error` with at least one more character, at the front. -/
def numberAt (text : List Char) : Option Diagnostic := do
  let (digits, text) ← run? isDigit text
  let message ← after? "] ".toList text
  match after? "Error".toList message with
  | some (_ :: _) => some ⟨digits, message⟩
  | _ => none

/-- `line N] Error` with at least one more character, at the front. -/
def locatedAt (text : List Char) : Option Diagnostic :=
  (after? "line ".toList text).bind numberAt

def lastLocated : List Char → Option Diagnostic
  | [] => none
  | c :: cs => (lastLocated cs).or (locatedAt (c :: cs))

/-- A diagnostic that starts with a bracket at the front: any text may stand between the bracket
and the last location, or the number follows the bracket at once. -/
def bracketAt : List Char → Option Diagnostic
  | '[' :: text => (lastLocated text).or (numberAt text)
  | _ => none

def recognise (line : List Char) : Option Diagnostic :=
  (leftmost bracketAt line).map Prod.snd

/-- The number of a stack frame, at the front: `[line N]`. -/
def frameAt (text : List Char) : Option (List Char × List Char) := do
  let text ← after? "[line ".toList text
  let (digits, text) ← run? isDigit text
  let rest ← after? "]".toList text
  some (digits, rest)

def isFrame (line : List Char) : Bool :=
  (leftmost frameAt line).isSome

end Diagnostic

end Conformance

import Conformance.Expectations
import Conformance.Text.Lines

/-! # Fixtures

Reading the expectations of a fixture from its source. The lines are read in order, up to the
first that ends the test. A fixture that expects compile errors and a runtime error is refused at
the first line where both are known.
-/

namespace Conformance

open Conformance.Text (sourceLines)

/-- What decides how the directives of a fixture are read. -/
structure ReadingOptions where
  /-- The language that the interpreter implements, to compare with tags. -/
  language : Option String := none
  exitCodes : ExitCodes := {}
deriving DecidableEq, Repr

namespace Fixture

def recordLine (options : ReadingOptions) (number : Nat) (e : Expectations) (line : List Char) :
    Expectations :=
  match Directive.recognise line with
  | none => e
  | some d => e.record options.exitCodes options.language number d

/-- Adds the lines from `number` on. The error is the number of the line that makes the
expectations contradict each other. -/
def recordLines (options : ReadingOptions) :
    (number : Nat) → Expectations → List (List Char) → Except Nat Expectations
  | _, e, [] => .ok e
  | number, e, line :: rest =>
    if Directive.endsTest line then .ok e
    else
      let e := recordLine options number e line
      if e.isConflicting then .error number
      else recordLines options (number + 1) e rest

/-- The expectations of a source, or the number of the line that contradicts those before it. -/
def expectations (options : ReadingOptions) (source : String) : Except Nat Expectations :=
  recordLines options 1 {} (sourceLines source.toList)

/-- Why a fixture is refused whose line `number` contradicts those before it. -/
def conflictReason (number : Nat) : String :=
  "line " ++ toString number ++
    " mixes a runtime error expectation with compile error expectations"

end Fixture

end Conformance

import Conformance.Expectations
import Conformance.Failure

/-! # Verdicts

Judging the output of an interpreter against expectations. Three checks run one after another and
none stops the others: the error stream, the exit code, the output lines. No failure is a pass.
-/

namespace Conformance

open Conformance.Text (outputPieces dropBlankTail)

structure Output where
  stdout : String := ""
  stderr : String := ""
  exitCode : Int := 0
deriving DecidableEq, Repr

namespace Verdict

/-- The error stream of a fixture that expects a runtime error: the message, then a trace. `pieces`
are the pieces of the error stream; a single piece is no message. Without a first line there is
nothing to compare, and no answer. -/
def runtimeFailures? (message : String) (pieces : List (List Char)) : Option (List Failure) :=
  if pieces.length < 2 then
    some [{ message := "Expected runtime error '" ++ message ++ "' but got none" }]
  else
    match dropBlankTail pieces with
    | [] => none
    | first :: trace =>
      some <| (if String.ofList first = message then []
        else [{ message := "Expected runtime error '" ++ message ++ "' and got:",
                context := [String.ofList first] }]) ++
        (if trace.any Diagnostic.isFrame then []
        else [{ message := "Expected stack trace and got:", context := Failure.shown trace }])

theorem runtimeFailures?_isSome (message : String) (pieces : List (List Char)) :
    (runtimeFailures? message pieces).isSome = true := by
  unfold runtimeFailures?
  split
  · rfl
  · next two =>
    split
    · next none_left =>
      have := Text.length_dropBlankTail pieces
      simp only [none_left, List.length_nil] at this
      omega
    · rfl

def reported (line : List Char) : Option String :=
  (Diagnostic.recognise line).map Diagnostic.normalForm

def surpriseFailure (line : List Char) : Failure where
  message := "Unexpected output on stderr:"
  context := [String.ofList line]

/-- What reading an error stream for compile errors has come to: the failures so far, the expected
errors that some line reports, and how many lines were a surprise. -/
structure Scan where
  failures : List Failure := []
  found : List String := []
  surprises : Nat := 0
deriving DecidableEq, Repr

namespace Scan

/-- One more line that is a surprise. Only the first few become failures. -/
def surprise (s : Scan) (line : List Char) : Scan where
  failures :=
    if s.surprises < Failure.maxReportedLines then s.failures ++ [surpriseFailure line]
    else s.failures
  found := s.found
  surprises := s.surprises + 1

/-- One more line. It is no surprise if it reports an expected error, or is blank. -/
def next (errors : List String) (s : Scan) (line : List Char) : Scan :=
  match reported line with
  | some error =>
    if error ∈ errors then { s with found := s.found.insert error } else s.surprise line
  | none => if line.isEmpty then s else s.surprise line

def ofLines (errors : List String) (lines : List (List Char)) : Scan :=
  lines.foldl (next errors) {}

end Scan

/-- The error stream of a fixture that expects no runtime error. -/
def compileFailures (errors : List String) (pieces : List (List Char)) : List Failure :=
  let scan := Scan.ofLines errors (dropBlankTail pieces)
  scan.failures ++
    (if scan.surprises > Failure.maxReportedLines then
      [{ message := Failure.truncationMark (scan.surprises - Failure.maxReportedLines) }]
    else []) ++
    (errors.filter fun error => error ∉ scan.found).map fun error =>
      { message := "Missing expected error: " ++ error }

def stderrFailures? (e : Expectations) (pieces : List (List Char)) : Option (List Failure) :=
  match e.runtimeError with
  | some expected => runtimeFailures? expected.message pieces
  | none => some (compileFailures e.errors pieces)

theorem stderrFailures?_isSome (e : Expectations) (pieces : List (List Char)) :
    (stderrFailures? e pieces).isSome = true := by
  unfold stderrFailures?
  split
  · exact runtimeFailures?_isSome _ pieces
  · rfl

/-- The check of the exit code, which shows the error stream. -/
def exitCodeFailures (expected actual : Int) (pieces : List (List Char)) : List Failure :=
  if expected = actual then []
  else
    [{ message := "Expected return code " ++ toString expected ++ " and got " ++ toString actual ++
        ". Stderr:",
       context := Failure.shown (dropBlankTail pieces) }]

/-- The check of the output lines, each against the expectation at its position. Expectations
without a line are not reported. -/
def outputFailures : List ExpectedOutput → List (List Char) → List Failure
  | _, [] => []
  | [], line :: lines =>
    { message := "Got output '" ++ String.ofList line ++ "' when none was expected" } ::
      outputFailures [] lines
  | expected :: rest, line :: lines =>
    (if expected.text = String.ofList line then []
    else [{ message := "Expected output '" ++ expected.text ++ "' on line " ++
              toString expected.line ++ " and got '" ++ String.ofList line ++ "'" }]) ++
      outputFailures rest lines

end Verdict

namespace Expectations

/-- The failures of an output, in the order of the checks, if every check has an answer. -/
def judge? (e : Expectations) (output : Output) : Option (List Failure) := do
  let stderr := outputPieces output.stderr.toList
  let stdout := outputPieces output.stdout.toList
  let failures ← Verdict.stderrFailures? e stderr
  some (failures ++ Verdict.exitCodeFailures e.exitCode output.exitCode stderr ++
    Verdict.outputFailures e.output (dropBlankTail stdout))

theorem judge?_isSome (e : Expectations) (output : Output) : (e.judge? output).isSome = true := by
  obtain ⟨failures, h⟩ := Option.isSome_iff_exists.mp
    (Verdict.stderrFailures?_isSome e (outputPieces output.stderr.toList))
  simp [judge?, h]

def judge (e : Expectations) (output : Output) : List Failure :=
  (e.judge? output).get (judge?_isSome e output)

end Expectations

end Conformance

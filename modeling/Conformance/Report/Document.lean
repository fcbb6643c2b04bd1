import Conformance.Report
import Conformance.Json.Printer
import Conformance.Expectations

/-! # Report documents

The structured form of failures, reports and expectations. A failure without context has no field
for it. A fixture has one object for its path and its outcome, told apart by `status`.
-/

namespace Conformance

def Failure.toJson (f : Failure) : Json :=
  .object (("message", .string f.message) ::
    if f.context.isEmpty then [] else [("context", .array (f.context.map .string))])

def Outcome.fields : Outcome → List (String × Json)
  | .passed => [("status", .string "passed")]
  | .failed failures =>
    [("status", .string "failed"), ("failures", .array (failures.map Failure.toJson))]
  | .error kind message =>
    [("status", .string "error"), ("kind", .string kind), ("message", .string message)]
  | .skipped reason => [("status", .string "skipped"), ("reason", .string reason)]

def FixtureReport.toJson (f : FixtureReport) : Json :=
  .object (("path", .string f.path) :: f.outcome.fields)

def SuiteReport.toJson (s : SuiteReport) : Json :=
  .object [("name", .string s.name), ("passed", .integer s.tally.passed),
    ("failed", .integer s.tally.failed), ("errored", .integer s.tally.errored),
    ("skipped", .integer s.tally.skipped),
    ("fixtures", .array (s.fixtures.map FixtureReport.toJson))]

def RunReport.toJson (r : RunReport) : Json :=
  .object [("suites", .array (r.suites.map SuiteReport.toJson))]

def RunReport.document (r : RunReport) : String := r.toJson.document

def Expectations.toJson (e : Expectations) : Json :=
  .object [
    ("expected_output", .array (e.output.map fun o =>
      .object [("line", .integer o.line), ("text", .string o.text)])),
    ("expected_errors", .array (e.errors.map .string)),
    ("expected_runtime_error", match e.runtimeError with
      | none => .null
      | some r => .object [("line", .integer r.line), ("message", .string r.message)]),
    ("expected_exit_code", .integer e.exitCode),
    ("expectation_count", .integer e.count)]

end Conformance

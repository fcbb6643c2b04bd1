import Conformance.Report

/-! # Text reports

A text report is a list of segments, some of them coloured. Written without colour a segment is its
text; on a terminal a coloured segment is put between a colour and a reset.
-/

namespace Conformance

inductive Color where
  | red | green | yellow | magenta
deriving DecidableEq, Repr

def Color.digits : Color → String
  | .red => "31"
  | .green => "32"
  | .yellow => "33"
  | .magenta => "35"

inductive Segment where
  | plain (text : String)
  | colored (color : Color) (text : String)
deriving DecidableEq, Repr

namespace Segment

def escape (parameter : String) : String := "\x1b[" ++ parameter ++ "m"

def reset : String := escape "0"

def text : Segment → String
  | .plain text => text
  | .colored _ text => text

def ansi : Segment → String
  | .plain text => text
  | .colored color text => reset ++ escape color.digits ++ text ++ reset

end Segment

namespace Tally

def segments (t : Tally) : List Segment :=
  [.colored .green (toString t.passed), .plain " tests passed. ",
    .colored .red (toString t.failed), .plain " tests failed"] ++
  (if t.errored > 0 then
    [.plain ", ", .colored .magenta (toString t.errored), .plain " errored"] else []) ++
  (if t.skipped > 0 then
    [.plain ", ", .colored .yellow (toString t.skipped), .plain " skipped"] else []) ++
  [.plain "\n"]

end Tally

namespace FixtureReport

/-- The lines of a fixture. Fixtures that passed or were skipped show only on request. -/
def segments (showPassed : Bool) (f : FixtureReport) : List Segment :=
  match f.outcome with
  | .passed =>
    if showPassed then [.colored .green "PASS", .plain (": " ++ f.path ++ "\n")] else []
  | .failed failures =>
    [.colored .red "FAIL", .plain (": " ++ f.path ++ "\n")] ++
    (failures.flatMap Failure.lines).flatMap (fun line =>
      [.colored .red ("  " ++ line), .plain "\n"]) ++
    [.plain "\n"]
  | .error kind message =>
    [.colored .magenta "ERROR", .plain (": " ++ f.path ++ "\n"),
      .plain ("  " ++ kind ++ ": " ++ message ++ "\n"), .plain "\n"]
  | .skipped reason =>
    if showPassed then
      [.colored .yellow "SKIP", .plain (": " ++ f.path ++ " (" ++ reason ++ ")\n")]
    else []

end FixtureReport

namespace SuiteReport

def summary (s : SuiteReport) : List Segment :=
  if s.isSuccessful ∧ s.tally.skipped = 0 then
    [.plain "All ", .colored .green (toString s.tally.passed), .plain " tests passed!\n"]
  else s.tally.segments

def segments (showPassed : Bool) (s : SuiteReport) : List Segment :=
  .plain ("====== Suite: " ++ s.name ++ " ======\n") ::
    s.fixtures.flatMap (FixtureReport.segments showPassed) ++ s.summary

end SuiteReport

namespace RunReport

def segments (showPassed : Bool) (r : RunReport) : List Segment :=
  r.suites.flatMap (SuiteReport.segments showPassed) ++
    if r.suites.length > 1 then .plain "\n" :: .plain "Total: " :: r.totals.segments else []

def text (showPassed : Bool) (r : RunReport) : String :=
  String.join ((r.segments showPassed).map Segment.text)

def ansi (showPassed : Bool) (r : RunReport) : String :=
  String.join ((r.segments showPassed).map Segment.ansi)

end RunReport

end Conformance

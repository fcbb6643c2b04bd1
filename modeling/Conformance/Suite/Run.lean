import Conformance.Suite
import Conformance.Fixture.Load
import Conformance.Process
import Conformance.Report

/-! # Running suites

Each fixture of a suite is loaded, run and judged; the excluded ones are skipped. A fixture that
cannot be loaded is not run.
-/

namespace Conformance

namespace Suite

def failures (e : Expectations) : RunResult → List Failure
  | .completed output => e.judge output
  | .timedOut after _ stderr => [Failure.timedOut after stderr]

def runFixture {World : Type} (s : Suite) (m : Machine World) (codes : ExitCodes) (path : String) :
    Work World (Except Fault (List Failure)) := fun w =>
  match Fixture.load ⟨s.language, codes⟩ (m.files w) path with
  | .error fault => .ok (.error fault, w)
  | .ok e =>
    (s.interpreter.run m path w).map fun (result, w) => (result.map (failures e), w)

/-- The entry of a fixture that is skipped. -/
def skipped (path : String) : FixtureReport := ⟨path, .skipped "excluded"⟩

def report (s : Suite) (results : List (Except Fault (List Failure))) : SuiteReport :=
  SuiteReport.ofFixtures s.name
    (s.excluded.map skipped ++
      (s.fixtures.zip results).map fun (path, result) => ⟨path, Outcome.ofResult result⟩)

def run {World : Type} (s : Suite) (m : Machine World) (codes : ExitCodes) :
    Work World SuiteReport := do
  return s.report (← s.fixtures.mapM (s.runFixture m codes))

def runAll {World : Type} (suites : List Suite) (m : Machine World) (codes : ExitCodes) :
    Work World RunReport := do
  return ⟨← suites.mapM fun s => s.run m codes⟩

end Suite

end Conformance

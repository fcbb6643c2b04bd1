import Conformance.Failure
import Conformance.Fault

/-! # Reports

What happened to each fixture, grouped by suite, with counts per outcome.
-/

namespace Conformance

inductive Outcome where
  | passed
  | failed (failures : List Failure)
  | error (kind message : String)
  | skipped (reason : String)
deriving DecidableEq, Repr

namespace Outcome

def ofFault (fault : Fault) : Outcome := .error fault.kind.name fault.message

def ofResult : Except Fault (List Failure) → Outcome
  | .ok [] => .passed
  | .ok failures => .failed failures
  | .error fault => ofFault fault

def isPassed : Outcome → Bool
  | .passed => true
  | _ => false

def isFailed : Outcome → Bool
  | .failed _ => true
  | _ => false

def isError : Outcome → Bool
  | .error .. => true
  | _ => false

def isSkipped : Outcome → Bool
  | .skipped _ => true
  | _ => false

end Outcome

structure FixtureReport where
  path : String
  outcome : Outcome
deriving DecidableEq, Repr

structure Tally where
  passed : Nat := 0
  failed : Nat := 0
  errored : Nat := 0
  skipped : Nat := 0
deriving DecidableEq, Repr

namespace Tally

def count (t : Tally) : Outcome → Tally
  | .passed => { t with passed := t.passed + 1 }
  | .failed _ => { t with failed := t.failed + 1 }
  | .error .. => { t with errored := t.errored + 1 }
  | .skipped _ => { t with skipped := t.skipped + 1 }

def ofFixtures (fixtures : List FixtureReport) : Tally :=
  fixtures.foldl (fun t fixture => t.count fixture.outcome) {}

def add (s t : Tally) : Tally :=
  ⟨s.passed + t.passed, s.failed + t.failed, s.errored + t.errored, s.skipped + t.skipped⟩

end Tally

/-- The fixtures of a suite with their counts. The counts are stored, as a reader of a report
finds them there. -/
structure SuiteReport where
  name : String
  tally : Tally
  fixtures : List FixtureReport
deriving DecidableEq, Repr

namespace SuiteReport

def ofFixtures (name : String) (fixtures : List FixtureReport) : SuiteReport :=
  ⟨name, Tally.ofFixtures fixtures, fixtures⟩

/-- Whether no fixture failed or met a fault. -/
def isSuccessful (s : SuiteReport) : Bool :=
  s.tally.failed = 0 && s.tally.errored = 0

end SuiteReport

structure RunReport where
  suites : List SuiteReport
deriving DecidableEq, Repr

namespace RunReport

def isSuccessful (r : RunReport) : Bool := r.suites.all SuiteReport.isSuccessful

def totals (r : RunReport) : Tally :=
  r.suites.foldl (fun t suite => t.add suite.tally) {}

end RunReport

end Conformance

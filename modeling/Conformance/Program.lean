import Conformance.CommandLine.Reader
import Conformance.Config.Source
import Conformance.Suite.Run
import Conformance.Report.Colored
import Conformance.Report.Document

/-! # The program

What a command line does: the text it prints and the status it exits with. Status zero is success;
one says that a fixture failed or met a fault; two says that the program could not do its work.
-/

namespace Conformance

structure Response where
  exitCode : Nat
  stdout : String := ""
  fault : Option Fault := none
  /-- The part of the program that broke off, if it did: the user is told nothing else. -/
  brokenPart : Option String := none
deriving DecidableEq, Repr

/-- The code that the user is told: that of the fault, or the part that broke off. -/
def Response.code (r : Response) : Option String := (r.fault.map Fault.code).or r.brokenPart

namespace Program

def versionText : String := "loxtest 0.1.0\n"

def exitCode (r : RunReport) : Nat := if r.isSuccessful then 0 else 1

/-- The text of a report in a format. Passed fixtures show only in verbose text. -/
def reportText (format : ReportFormat) (verbose : Bool) (r : RunReport) : String :=
  match format with
  | .text => r.text verbose
  | .json => r.document

def run {World : Type} (m : Machine World) (verbose : Bool) (source : SuiteSource)
    (timeout : Option Nat) (format : ReportFormat) : Work World (Except Fault Response) := fun w =>
  let selected : Except Fault (Config × List Suite) := do
    let c ← Config.resolve (m.files w) source
    let c := { c with timeoutSecs := timeout.getD c.timeoutSecs }
    return (c, ← Suite.select c (m.files w) source.suites)
  match selected with
  | .error fault => .ok (.error fault, w)
  | .ok (c, suites) =>
    (Suite.runAll suites m c.exitCodes w).map fun (report, w) =>
      (.ok { exitCode := exitCode report, stdout := reportText format verbose report }, w)

def parse (f : Files) (fixture : String) (language config : Option String) :
    Except Fault Response := do
  let c ← Config.discover f config
  let e ← Fixture.load ⟨language, c.exitCodes⟩ f fixture
  return { exitCode := 0, stdout := e.toJson.document }

def suiteLine (s : Suite) : String :=
  s.name ++ ": " ++ toString s.fixtures.length ++ " fixtures (" ++ toString s.excluded.length ++
    " excluded)\n"

def list (f : Files) (source : SuiteSource) : Except Fault Response := do
  let c ← Config.resolve f source
  let suites ← Suite.select c f source.suites
  return { exitCode := 0, stdout := String.join (suites.map suiteLine) }

def response : Except Fault Response → Response
  | .ok r => r
  | .error fault => { exitCode := 2, fault := some fault }

def refusal : UsageError → Response
  | .versionAsked => { exitCode := 0, stdout := versionText }
  | .helpAsked => { exitCode := 0 }
  | _ => { exitCode := 2 }

/-- The response when a run has no answer: the program breaks off where it waits for the
interpreter. -/
def brokenOff : Response := { exitCode := 101, brokenPart := some "loxtest::runner" }

def respond {World : Type} (m : Machine World) (words : List String) :
    Work World Response := fun w =>
  match CommandLine.read words with
  | .error e => .ok (refusal e, w)
  | .ok ⟨verbosity, command⟩ =>
    match command with
    | .run source _ timeout format =>
      (run m (verbosity > 0) source timeout format w).map fun (r, w) => (response r, w)
    | .parse fixture language config => .ok (response (parse (m.files w) fixture language config), w)
    | .list source => .ok (response (list (m.files w) source), w)

/-- The response to the words of a command line, also when a run has no answer. -/
def answer {World : Type} (m : Machine World) (words : List String) (w : World) : Response :=
  match respond m words w with
  | .ok (r, _) => r
  | .error _ => brokenOff

end Program

end Conformance

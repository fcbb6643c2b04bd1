import Conformance.Expectations
import Conformance.Failure
import Conformance.Fault

/-! # Configuration

The settings of the harness and the suites it runs, with the rules that a configuration must obey.
The first rule that is broken is reported: the extension, the exit codes, then the suites in order.
-/

namespace Conformance

structure SuiteConfig where
  name : String
  executable : String
  args : List String := []
  language : Option String := none
  root : String := "tests"
  perDirectory : Bool := false
deriving DecidableEq, Repr

structure Config where
  exitCodes : ExitCodes := {}
  /-- The time limit of each run; zero is no limit. -/
  timeoutSecs : Nat := 10
  /-- The number of workers; zero leaves the choice to the harness. -/
  jobs : Nat := 0
  extension : String := "lox"
  /-- Fixtures whose path contains one of these are skipped. -/
  exclude : List String := ["benchmark"]
  suites : List SuiteConfig := []
deriving DecidableEq, Repr

namespace Config

inductive Problem where
  | emptyExtension
  | equalExitCodes (code : Int)
  /-- The position of the suite counts from one. -/
  | unnamedSuite (position : Nat)
  | noExecutable (suite : String)
  | repeatedName (suite : String)
  | noSuites
  | noMatch (filters : List String)
deriving DecidableEq, Repr

def Problem.message : Problem → String
  | .emptyExtension => "extension must not be empty"
  | .equalExitCodes code =>
    "compile and runtime error codes must differ (both are " ++ toString code ++ ")"
  | .unnamedSuite position => "suite #" ++ toString position ++ " has no name"
  | .noExecutable suite => "suite '" ++ suite ++ "' has no executable"
  | .repeatedName suite => "suite '" ++ suite ++ "' is defined more than once"
  | .noSuites => "no suites configured; pass --interpreter or add suites to loxtest.yaml"
  | .noMatch filters => "no suite matches " ++ String.intercalate ", " filters

def Problem.fault (p : Problem) : Fault := .invalidConfig p.message

def timeout (c : Config) : Option Duration :=
  if c.timeoutSecs > 0 then some ⟨c.timeoutSecs, 0⟩ else none

/-- What is wrong with a suite that follows suites of the given names. -/
def suiteProblem (earlier : List String) (s : SuiteConfig) : Option Problem :=
  if s.name = "" then some (.unnamedSuite (earlier.length + 1))
  else if s.executable = "" then some (.noExecutable s.name)
  else if s.name ∈ earlier then some (.repeatedName s.name)
  else none

def suitesProblem (earlier : List String) : List SuiteConfig → Option Problem
  | [] => none
  | s :: rest => (suiteProblem earlier s).or (suitesProblem (earlier ++ [s.name]) rest)

def problem (c : Config) : Option Problem :=
  if c.extension = "" then some .emptyExtension
  else if c.exitCodes.compileError = c.exitCodes.runtimeError then
    some (.equalExitCodes c.exitCodes.compileError)
  else suitesProblem [] c.suites

def validate (c : Config) : Except Fault Config :=
  match c.problem with
  | none => .ok c
  | some p => .error p.fault

end Config

end Conformance

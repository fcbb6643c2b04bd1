/-! # Command lines

What a user asks for: a command with its options, or a reason why the words are refused.
-/

namespace Conformance

inductive ReportFormat where
  | text | json
deriving DecidableEq, Repr

/-- Where suites come from: a configuration file, options, or both. -/
structure SuiteSource where
  config : Option String := none
  /-- An executable that replaces the configured suites. -/
  interpreter : Option String := none
  args : List String := []
  language : Option String := none
  root : Option String := none
  perDirectory : Bool := false
  /-- The names of suites to keep; all are kept if there is none. -/
  suites : List String := []
deriving DecidableEq, Repr

inductive Command where
  | run (source : SuiteSource) (jobs timeout : Option Nat) (format : ReportFormat)
  | parse (fixture : String) (language config : Option String)
  | list (source : SuiteSource)
deriving DecidableEq, Repr

structure Invocation where
  verbosity : Nat
  command : Command
deriving DecidableEq, Repr

/-- Why words are no invocation. Help and version are asked for, and end the reading too. -/
inductive UsageError where
  | unknownArgument
  | invalidValue
  /-- A value is not a number, or too large. -/
  | malformedNumber
  | repeatedOption
  | unwantedValue
  | invalidCommand
  | missingCommand
  | missingFixture
  | helpAsked
  | versionAsked
  | nothingGiven
deriving DecidableEq, Repr

end Conformance

import Conformance.Config
import Conformance.Discovery
import Conformance.Interpreter

/-! # Suites

A suite pairs an interpreter with fixtures. A configured suite is one suite, or one for each
directory in its root. Suites can be selected by name; the name of a configured suite selects all
suites that it became.
-/

namespace Conformance

structure Suite where
  name : String
  interpreter : Interpreter
  language : Option String := none
  fixtures : List String := []
  excluded : List String := []
deriving DecidableEq, Repr

namespace Suite

def directoryName (name label : String) : String := name ++ " - " ++ label

/-- Whether a filter is the name of the suite or of the configured suite it came from. -/
def selectedBy (s : Suite) (filter : String) : Bool :=
  s.name = filter || (Text.after? (directoryName filter "").toList s.name.toList).isSome

def rules (c : Config) : Discovery.Rules := ⟨c.extension, c.exclude⟩

/-- The suite of a name with the fixtures below a root. -/
def ofRoot (c : Config) (f : Files) (s : SuiteConfig) (name root : String) :
    Except Fault Suite := do
  let found ← Discovery.discover (rules c) f root
  return { name, interpreter := ⟨s.executable, s.args, c.timeout⟩, language := s.language,
           fixtures := found.fixtures, excluded := found.excluded }

def ofConfig (c : Config) (f : Files) (s : SuiteConfig) : Except Fault (List Suite) :=
  if s.perDirectory then do
    let dirs ← Discovery.subdirectories f s.root
    dirs.mapM fun dir =>
      ofRoot c f s (directoryName s.name ((Path.fileName? dir).getD "")) dir
  else do return [← ofRoot c f s s.name s.root]

def allOf (c : Config) (f : Files) : Except Fault (List Suite) := do
  return (← c.suites.mapM (ofConfig c f)).flatten

/-- The suites of a configuration that a filter selects; without filters, all of them. -/
def select (c : Config) (f : Files) (filters : List String) : Except Fault (List Suite) :=
  if c.suites.isEmpty then .error Config.Problem.noSuites.fault
  else do
    let suites ← allOf c f
    if filters.isEmpty then return suites
    let kept := suites.filter fun s => filters.any s.selectedBy
    if kept.isEmpty then .error (Config.Problem.noMatch filters).fault else .ok kept

end Suite

end Conformance

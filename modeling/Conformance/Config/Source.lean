import Conformance.Config.Decoder
import Conformance.CommandLine
import Conformance.Tree

/-! # Where configurations come from

A configuration is loaded from a file: the one that is named, or the default file if it exists, or
none. Options of the command line override it.
-/

namespace Conformance.Config

def defaultFile : String := "loxtest.yaml"

/-- Loads a file, which has to hold a configuration without problems. -/
def load (f : Files) (path : String) : Except Fault Config :=
  match (f.text? path).bind ofYaml? with
  | some c => c.validate
  | none => .error (.unloadableConfig path)

def discover (f : Files) : (path : Option String) → Except Fault Config
  | some path => load f path
  | none => if f.isFile defaultFile then load f defaultFile else .ok {}

/-- The suite that the options describe when they name an interpreter. -/
def suiteOfOptions (o : SuiteSource) (executable : String) : SuiteConfig where
  name := o.language.getD "default"
  executable := executable
  args := o.args
  language := o.language
  root := o.root.getD "tests"
  perDirectory := o.perDirectory

def override (c : Config) (o : SuiteSource) : Config :=
  match o.interpreter, o.root with
  | some executable, _ => { c with suites := [suiteOfOptions o executable] }
  | none, some root => { c with suites := c.suites.map fun s => { s with root } }
  | none, none => c

def resolve (f : Files) (o : SuiteSource) : Except Fault Config := do
  let c ← discover f o.config
  (c.override o).validate

end Conformance.Config

import Conformance.Text.Search
import Conformance.Failure

/-! # Interpreters

How an interpreter is invoked on a fixture.
-/

namespace Conformance

structure Interpreter where
  executable : String
  args : List String := []
  timeout : Option Duration := none
deriving DecidableEq, Repr

namespace Interpreter

/-- The token of a template that stands for the path of the fixture. -/
def placeholder : String := "\x7bfixture\x7d"

def fillIn (path arg : String) : String :=
  String.ofList (Text.substitute placeholder.toList path.toList arg.toList)

/-- The arguments for a fixture. A template without placeholder gets the path at its end. -/
def arguments (i : Interpreter) (path : String) : List String :=
  if i.args.any fun arg => Text.contains arg placeholder then i.args.map (fillIn path)
  else i.args ++ [path]

end Interpreter

end Conformance

import Conformance.Fixture
import Conformance.Fault
import Conformance.Tree

/-! # Fixture files

Loading the expectations of a fixture from its file.
-/

namespace Conformance.Fixture

def read (options : ReadingOptions) (path source : String) : Except Fault Expectations :=
  match expectations options source with
  | .ok e => .ok e
  | .error number => .error (.refusedFixture path (conflictReason number))

def load (options : ReadingOptions) (f : Files) (path : String) : Except Fault Expectations :=
  match f.text? path with
  | some source => read options path source
  | none => .error (.unreadableFixture path)

end Conformance.Fixture

import Conformance.Text.Search

/-! # Paths

A path is a text. Its components decide its order and its name; the text itself is kept as it was
written.
-/

namespace Conformance.Path

/-- A part of a path. Empty parts do not count, nor does a single dot after the first part. -/
inductive Component where
  | root
  | here
  | up
  | name (text : String)
deriving DecidableEq, Repr

namespace Component

def rank : Component → Nat
  | .root => 0
  | .here => 1
  | .up => 2
  | .name _ => 3

/-- Whether a component comes before another; names are ordered by their characters. -/
def before : Component → Component → Bool
  | .name a, .name b => a < b
  | a, b => a.rank < b.rank

end Component

def splitSlashes : List Char → List (List Char)
  | [] => [[]]
  | c :: cs =>
    if c = '/' then [] :: splitSlashes cs
    else match splitSlashes cs with
      | [] => [[c]]
      | part :: rest => (c :: part) :: rest

def segments (path : String) : List String := (splitSlashes path.toList).map String.ofList

/-- The component of a segment that is not the first. -/
def component? (segment : String) : Option Component :=
  if segment = "" ∨ segment = "." then none
  else if segment = ".." then some .up
  else some (.name segment)

def components (path : String) : List Component :=
  match segments path with
  | [""] => []
  | "" :: rest => .root :: rest.filterMap component?
  | "." :: rest => .here :: rest.filterMap component?
  | parts => parts.filterMap component?

/-- Whether a list of components comes before another or is equal to it: the first difference
decides, and a shorter list comes first. -/
def componentsLe : List Component → List Component → Bool
  | [], _ => true
  | _ :: _, [] => false
  | a :: as, b :: bs => if a = b then componentsLe as bs else a.before b

def le (a b : String) : Bool := componentsLe (components a) (components b)

def sort (paths : List String) : List String := paths.mergeSort le

def join (dir name : String) : String :=
  if dir = "" ∨ dir.toList.getLast? = some '/' then dir ++ name else dir ++ "/" ++ name

def fileName? (path : String) : Option String :=
  match (components path).getLast? with
  | some (.name text) => some text
  | _ => none

/-- The extension of a name: what follows its last dot, if something stands before that dot. -/
def extension? (name : String) : Option String :=
  let chars := name.toList
  let after := chars.reverse.takeWhile (· ≠ '.')
  if after.length + 1 < chars.length then some (String.ofList after.reverse) else none

end Conformance.Path

import Conformance.Tree
import Conformance.Fault

/-! # Discovery

Finding the fixtures below a directory: the files with the right extension, at any depth, split into those
to run and those that are excluded. Both lists are in the order of paths.
-/

namespace Conformance

structure Discovered where
  fixtures : List String
  excluded : List String
deriving DecidableEq, Repr

namespace Discovery

/-- Which files are fixtures, and which fixtures are excluded. -/
structure Rules where
  extension : String
  exclude : List String
deriving DecidableEq, Repr

def Rules.isFixture (r : Rules) (path : String) : Bool :=
  (Path.fileName? path).bind Path.extension? = some r.extension

/-- Whether the text of a path contains one of the excluded texts. -/
def Rules.isExcluded (r : Rules) (path : String) : Bool :=
  r.exclude.any fun needle => Text.contains path needle

def Rules.select (r : Rules) (files : List String) : Discovered :=
  let found := files.filter r.isFixture
  ⟨Path.sort (found.filter fun path => !r.isExcluded path), Path.sort (found.filter r.isExcluded)⟩

/-- The files to look at below a root. A root may be a link to a directory; a link to a file is no
file. -/
def filesBelow (f : Files) (root : String) : Option (List String) :=
  match (f.locateSelf? root).bind f.top.get?, f.at? root with
  | some (.link _), some (.dir entries) => some (Tree.filesIn root entries)
  | some (.link _), some _ => some []
  | _, found => found.map fun t => t.files root

def discover (r : Rules) (f : Files) (root : String) : Except Fault Discovered :=
  match filesBelow f root with
  | some files => .ok (r.select files)
  | none => .error (.unwalkableRoot root)

/-- The directories in a root, in order. Links to directories do not count. -/
def subdirectories (f : Files) (root : String) : Except Fault (List String) :=
  match f.at? root with
  | some (.dir entries) =>
    .ok (Path.sort ((entries.filter fun entry => entry.2.isDir).map fun entry =>
      Path.join root entry.1))
  | _ => .error (.unlistableDirectory root)

end Discovery

end Conformance

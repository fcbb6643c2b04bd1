import Conformance.Program
import Conformance.System.Machine

/-! # The command line

Takes a picture of the working directory, answers the command line on it, and prints the answer.
Programs that fixtures are run by work on the picture; the directory itself is not changed.
-/

namespace Conformance

/-- What stands for a file that cannot be read: it holds no text. -/
def unreadable : Tree := .file [0xFF]

/-- The target of a link at a depth below the top directory, from the place that it leads to. A link
that leaves the directory leads nowhere. -/
def linkTarget (top place : List String) (depth : Nat) : String :=
  if top.isPrefixOf place then
    String.intercalate "/" (List.replicate depth ".." ++ place.drop top.length)
  else ""

partial def entryTree (top : List String) (depth : Nat) (entry : IO.FS.DirEntry) : IO Tree := do
  let path := entry.path
  match (← path.symlinkMetadata).type with
  | .dir =>
    let entries ← path.readDir
    return .dir (← entries.toList.mapM fun e => do
      return (e.fileName, ← entryTree top (depth + 1) e))
  | .file =>
    try return .file (← IO.FS.readBinFile path).toList
    catch _ => return unreadable
  | .symlink =>
    try return .link (linkTarget top (← IO.FS.realPath path).components depth)
    catch _ => return .link ""
  | .other => return .link ""

def workingTree : IO Tree := do
  let here ← IO.currentDir
  let top := (← IO.FS.realPath here).components
  let entries ← here.readDir
  return .dir (← entries.toList.mapM fun e => do return (e.fileName, ← entryTree top 0 e))

def answer (args : List String) : IO UInt32 := do
  let world := System.World.ofFiles (System.filesAround (← workingTree))
  let response := Program.answer System.machine args world
  IO.print response.stdout
  match response.code with
  | some code => IO.eprintln (code ++ "\n\n  " ++ (response.fault.elim "broken off" Fault.message))
  | none => pure ()
  return response.exitCode.toUInt32

end Conformance

def main (args : List String) : IO UInt32 := Conformance.answer args

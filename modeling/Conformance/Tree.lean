import Conformance.Path
import Conformance.Text.Utf8

/-! # Directory trees

The files of a system: a directory with its entries in any order. A place in a tree is the list of
names that lead to it. Paths are followed name by name, through links up to a limit; a tree and the
directory that paths start at make up the files as a program sees them.
-/

namespace Conformance

inductive Device where
  /-- Always empty; takes everything. -/
  | null
  /-- Zero bytes without end; takes everything. -/
  | zero
  /-- Zero bytes without end; takes nothing. -/
  | full
  /-- A terminal that nobody is at. -/
  | terminal
  | descriptor (number : Nat)
deriving DecidableEq, Repr

inductive Tree where
  | file (content : List UInt8)
  | link (target : String)
  | dir (entries : List (String × Tree))
  | device (kind : Device)
  | program (name : String)
deriving Repr, Inhabited

namespace Tree

def isDir : Tree → Bool
  | .dir _ => true
  | _ => false

def entry? (name : String) : Tree → Option Tree
  | .dir entries => (entries.find? fun entry => entry.1 = name).map Prod.snd
  | _ => none

def get? (t : Tree) : List String → Option Tree
  | [] => some t
  | name :: rest => (t.entry? name).bind fun t => t.get? rest

def putEntry (name : String) (t : Tree) : List (String × Tree) → List (String × Tree)
  | [] => [(name, t)]
  | entry :: rest => if entry.1 = name then (name, t) :: rest else entry :: putEntry name t rest

/-- Puts a tree at a place. Directories on the way are made; a file on the way gives way. -/
def put (t : Tree) (new : Tree) : List String → Tree
  | [] => new
  | name :: rest =>
    let entries := match t with
      | .dir entries => entries
      | _ => []
    let old := (entries.find? fun entry => entry.1 = name).map Prod.snd
    .dir (putEntry name ((old.getD (.dir [])).put new rest) entries)

def erase (t : Tree) : List String → Tree
  | [] => .dir []
  | [name] =>
    match t with
    | .dir entries => .dir (entries.filter fun entry => entry.1 ≠ name)
    | t => t
  | name :: rest =>
    match t with
    | .dir entries =>
      match entries.find? fun entry => entry.1 = name with
      | some (_, child) => .dir (putEntry name (child.erase rest) entries)
      | none => t
    | t => t

/-! ## Following paths -/

inductive Lost where
  | missing
  | notDirectory
  | tooManyLinks
  | nameTooLong
deriving DecidableEq, Repr

/-- Where a path leads: a place, and whether something is there. If nothing is, the directory that
would hold it is. -/
structure Spot where
  place : List String
  taken : Bool
deriving DecidableEq, Repr

def maxLinks : Nat := 40

def maxName : Nat := 255

def maxPath : Nat := 4095

/-- Follows segments from the directory `here`. The last segment is followed through a link only on
request. A name is too long by its size. -/
def follow (t : Tree) (size : String → Nat) (last : Bool) (links : Nat) (here : List String)
    (segments : List String) : Except Lost Spot :=
  match segments with
  | [] => .ok ⟨here, true⟩
  | segment :: rest =>
    if segment = "" ∨ segment = "." then follow t size last links here rest
    else if segment = ".." then follow t size last links here.dropLast rest
    else if maxName < size segment then .error .nameTooLong
    else
      match t.get? (here ++ [segment]) with
      | none => if rest.isEmpty then .ok ⟨here ++ [segment], false⟩ else .error .missing
      | some (.dir _) => follow t size last links (here ++ [segment]) rest
      | some (.link target) =>
        if rest.isEmpty && !last then .ok ⟨here ++ [segment], true⟩
        else
          match links with
          | 0 => .error .tooManyLinks
          | links + 1 =>
            match Path.segments target with
            | [""] => .error .missing
            | "" :: parts => follow t size last links [] (parts ++ rest)
            | parts => follow t size last links here (parts ++ rest)
      | some _ =>
        if rest.isEmpty then .ok ⟨here ++ [segment], true⟩ else .error .notDirectory
termination_by (links, segments.length)

mutual

def rename (f : String → String) : Tree → Tree
  | .link target => .link (f target)
  | .dir entries => .dir (renameIn f entries)
  | t => t

def renameIn (f : String → String) : List (String × Tree) → List (String × Tree)
  | [] => []
  | (name, t) :: rest => (f name, t.rename f) :: renameIn f rest

end

mutual

/-- The paths of the files below a tree of the given path. Links are not followed, and devices are
no files. -/
def files (path : String) : Tree → List String
  | .file _ | .program _ => [path]
  | .link _ | .device _ => []
  | .dir entries => filesIn path entries

def filesIn (path : String) : List (String × Tree) → List String
  | [] => []
  | (name, t) :: rest => t.files (Path.join path name) ++ filesIn path rest

end

end Tree

structure Files where
  top : Tree
  here : List String := []
  /-- Whether names are bytes, one for each character. -/
  isRaw : Bool := false
deriving Repr, Inhabited

namespace Files

def sizeOf (f : Files) (text : String) : Nat := if f.isRaw then text.length else text.utf8ByteSize

def find (f : Files) (path : String) (last : Bool := true) : Except Tree.Lost Tree.Spot :=
  if path.isEmpty ∨ path.toList.contains '\x00' then .error .missing
  else if Tree.maxPath < f.sizeOf path then .error .nameTooLong
  else
    match Path.segments path with
    | "" :: rest => f.top.follow f.sizeOf last Tree.maxLinks [] rest
    | segments => f.top.follow f.sizeOf last Tree.maxLinks f.here segments

/-- The place of what a path leads to, through links at its end too. -/
def locate? (f : Files) (path : String) : Option (List String) :=
  match f.find path with
  | .ok ⟨place, true⟩ => some place
  | _ => none

/-- The place of what a path names, which may be a link. -/
def locateSelf? (f : Files) (path : String) : Option (List String) :=
  match f.find path false with
  | .ok ⟨place, true⟩ => some place
  | _ => none

def at? (f : Files) (path : String) : Option Tree := (f.locate? path).bind f.top.get?

def bytes? (f : Files) (path : String) : Option (List UInt8) :=
  match f.at? path with
  | some (.file content) => some content
  | some (.device .null) => some []
  | _ => none

def text? (f : Files) (path : String) : Option String :=
  (f.bytes? path).bind fun bytes => (Text.decode? bytes).map String.ofList

def isFile (f : Files) (path : String) : Bool :=
  match f.at? path with
  | some (.file _) | some (.program _) => true
  | _ => false

def putAt (f : Files) (t : Tree) (spot : Except Tree.Lost Tree.Spot) : Files :=
  match spot with
  | .ok spot => { f with top := f.top.put t spot.place }
  | .error _ => f

/-- Makes the directories that names lead to, one after the other, unless they are there. -/
def makeDirs (f : Files) (start : String) : List String → Files
  | [] => f
  | name :: rest =>
    let path := start ++ name
    let f := match f.find path with
      | .ok ⟨place, false⟩ => { f with top := f.top.put (.dir []) place }
      | _ => f
    f.makeDirs (path ++ "/") rest

def makeDir (f : Files) (path : String) : Files := f.makeDirs "" (Path.segments path)

def makeParents (f : Files) (path : String) : Files :=
  f.makeDirs "" (Path.segments path).dropLast

/-- Writes a file. A link at the path is followed; directories on the way are made. -/
def write (f : Files) (path : String) (content : List UInt8) : Files :=
  let f := f.makeParents path
  f.putAt (.file content) (f.find path)

def makeLink (f : Files) (path target : String) : Files :=
  let f := f.makeParents path
  f.putAt (.link target) (f.find path false)

def remove (f : Files) (path : String) : Files :=
  match f.locateSelf? path with
  | some place => { f with top := f.top.erase place }
  | none => f

end Files

end Conformance

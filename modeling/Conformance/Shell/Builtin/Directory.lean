import Conformance.Shell.Builtin.Options
import Conformance.Shell.Lookup

/-! # Directories and limits

The utilities of the shell itself that change where a process is and what it is allowed to do.
-/

namespace Conformance.Shell

open Conformance.System

/-- The segments of a path, without those that stay where they are; those that go up drop one. -/
def walk (segments : List String) : List String → List String
  | [] => segments
  | name :: rest =>
    if name = "" || name = "." then walk segments rest
    else if name = ".." then walk segments.dropLast rest
    else walk (segments ++ [name]) rest

def logicalPath (here path : String) : String :=
  let isTop := path.startsWith "/"
  let root := if isTop && path.startsWith "//" && !path.startsWith "///" then "//" else "/"
  let root := if !isTop && here.startsWith "//" then "//" else root
  let start := if isTop then [] else walk [] (Path.segments here)
  root ++ String.intercalate "/" (walk start (Path.segments path))

def noteDirectory (named : Option String) (changes : Bool) : Run Unit := do
  let old := (← get).place
  if changes then setVariable "OLDPWD" (some old) { exports := true }
  let truePlace ← Run.call .whereAmI
  let place := named.getD truePlace
  modify fun s => { s with place, truePlace }
  setVariable "PWD" (some place) { exports := true }

def goTo (path : String) (physical : Bool) : Run Bool := do
  let s ← get
  let named := if physical then none else some (logicalPath s.place path)
  match ← Run.call (.changeDirectory (named.getD path)) with
  | .error _ => return false
  | .ok () =>
    noteDirectory named true
    modify fun s => { s with remembered := s.remembered.map fun r => { r with stale := true } }
    return true

def isPhysical (given : List Given) : Bool := lastOption given = some 'P'

def isAnchored (path : String) : Bool :=
  match path.toList with
  | '/' :: _ | ['.'] | '.' :: '/' :: _ | ['.', '.'] | '.' :: '.' :: '/' :: _ => true
  | _ => false

/-- The first directory of a search path in which a path leads to a directory, and whether that is to
be told. -/
def findDirectory : List (Bool × String) → Run (Option (Bool × String))
  | [] => return none
  | (tells, path) :: rest => do
    match ← Run.call (.inspect path true) with
    | .ok info =>
      if info.kind = .directory then return some (tells, path) else findDirectory rest
    | .error _ => findDirectory rest

namespace Builtin

def cd (args : List String) : Run Nat := do
  let (given, args) ← optionsOf "LP" args
  let s ← get
  let wanted := match args with
    | [] => (s.valueOf? "HOME").getD ""
    | "-" :: _ => (s.valueOf? "OLDPWD").getD ""
    | path :: _ => path
  let named := if wanted.isEmpty then "." else wanted
  let candidates := match s.valueOf? "CDPATH" with
    | some path =>
      if isAnchored wanted then []
      else (colonParts path.toList).map fun directory =>
        if directory.isEmpty then (false, named)
        else (true, String.ofList directory ++ "/" ++ named)
    | none => []
  let (tells, path) ← match ← findDirectory candidates with
    | some found => pure found
    | none => pure (false, named)
  if ← goTo path (isPhysical given) then
    if tells || args.head? = some "-" then say ((← get).place ++ "\n")
    return 0
  else fail ("can't cd to " ++ named)

def pwd (args : List String) : Run Nat := do
  let (given, _) ← optionsOf "LP" args
  let s ← get
  say ((if isPhysical given then s.truePlace else s.place) ++ "\n")
  return 0

/-! ## Permissions of new files -/

def permissionLetters (bits : Nat) : String :=
  (if bits / 4 % 2 = 1 then "r" else "") ++ (if bits / 2 % 2 = 1 then "w" else "") ++
    (if bits % 2 = 1 then "x" else "")

def permissionBits (allowed : Nat) (c : Char) : Option Nat :=
  match c with
  | 'r' => some 4
  | 'w' => some 2
  | 'x' => some 1
  | 'u' => some (allowed / 64)
  | 'g' => some (allowed / 8)
  | 'o' => some allowed
  | 'X' => some (if allowed &&& 0o111 = 0 then 0 else 1)
  | 's' => some 0
  | _ => none

def classBits (c : Char) : Option Nat :=
  match c with
  | 'a' => some 0o111
  | 'u' => some 0o100
  | 'g' => some 0o010
  | 'o' => some 0o001
  | _ => none

def takeBits (bits : Char → Option Nat) : List Char → Nat → Nat × List Char
  | [], sum => (sum, [])
  | c :: rest, sum =>
    match bits c with
    | some n => takeBits bits rest (sum ||| n)
    | none => (sum, c :: rest)

def changeMode (old : Nat) : Nat → (classes : Nat) → List Char → Nat → Option Nat
  | 0, _, _, new => some new
  | _, _, [], new => some new
  | fuel + 1, classes, text, new =>
    let (classes, text) := takeBits classBits text classes
    let classes := if classes = 0 then 0o111 else classes
    match text with
    | op :: text =>
      if op = '=' || op = '+' || op = '-' then
        let (value, text) := takeBits (permissionBits old) text 0
        let value := (value % 8) * classes
        let all := classes * 7
        let new := if op = '+' then new ||| value
          else if op = '-' then new - (new &&& value)
          else value ||| (new - (new &&& all))
        match text with
        | ',' :: rest => changeMode old fuel 0 rest new
        | [] => some new
        | c :: rest =>
          if c = '=' || c = '+' || c = '-' then changeMode old fuel classes (c :: rest) new
          else none
      else none
    | [] => none

def umask (args : List String) : Run Nat := do
  let (given, args) ← optionsOf "S" args
  let s ← get
  let allowed := 0o777 - s.mask
  match args with
  | [] =>
    if given.isEmpty then
      let digits := Nat.toDigits 8 s.mask
      say (String.ofList (List.replicate (4 - digits.length) '0' ++ digits) ++ "\n")
    else
      say ("u=" ++ permissionLetters (allowed / 64) ++ ",g=" ++ permissionLetters (allowed / 8) ++
        ",o=" ++ permissionLetters allowed ++ "\n")
  | arg :: _ =>
    let chars := arg.toList
    if chars.head?.any Char.isDigit then
      if chars.all fun c => '0' ≤ c && c ≤ '7' then
        let (mask, _, _) := Floating.readDigits 8 chars 0 0
        set { s with mask := mask % 0o1000 }
      else fail ("Illegal number: " ++ arg)
    else match changeMode allowed (chars.length + 1) 0 chars allowed with
      | some allowed => set { s with mask := 0o777 - allowed % 0o1000 }
      | none => fail ("Illegal mode: " ++ arg)
  return 0

/-! ## Limits -/

def limits : List (Char × String × String) :=
  [('t', "time(seconds)", "unlimited"), ('f', "file(blocks)", "unlimited"),
    ('d', "data(kbytes)", "unlimited"), ('s', "stack(kbytes)", "8192"),
    ('c', "coredump(blocks)", "0"), ('m', "memory(kbytes)", "unlimited"),
    ('l', "locked memory(kbytes)", "8192"), ('p', "process", "unlimited"),
    ('n', "nofiles", "1024"), ('v', "vmemory(kbytes)", "unlimited"), ('w', "locks", "unlimited"),
    ('r', "rtprio", "0")]

/-- Shows a limit, or all of them. New limits are taken without effect. -/
def ulimit (args : List String) : Run Nat := do
  let (given, args) ← optionsOf "HSatfdscmlpnvwr" args
  let letters := (given.map Prod.fst).filter fun c => c ≠ 'H' && c ≠ 'S'
  let letter := letters.getLast?.getD 'f'
  match args with
  | [] =>
    if letter = 'a' then
      for (_, name, value) in limits do
        let blanks := String.ofList (List.replicate (20 - name.length) ' ')
        say (name ++ blanks ++ " " ++ value ++ "\n")
    else
      let value := ((limits.find? fun entry => entry.1 = letter).map fun entry => entry.2.2)
      say (value.getD "unlimited" ++ "\n")
  | [value] =>
    if letter = 'a' then fail "too many arguments"
    unless value = "unlimited" || value.toList.all Char.isDigit do fail "bad number"
  | _ => fail "too many arguments"
  return 0

def times : Run Nat := do
  say "0m0.000000s 0m0.000000s\n0m0.000000s 0m0.000000s\n"
  return 0

end Builtin

end Conformance.Shell

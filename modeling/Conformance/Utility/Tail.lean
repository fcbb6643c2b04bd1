import Conformance.Utility.Options

/-! # Ends of files

The program that shows the last lines or bytes of files, or what follows a place in them. It can go
on with what is added to a file later.
-/

namespace Conformance.Utility.Tail

open Conformance.System

/-- Which items are shown: those from a place on, or the last ones. -/
inductive Extent where
  | fromPlace (n : Nat)
  | last (n : Nat)
deriving DecidableEq, Repr

inductive Headers where
  | forSeveral | always | never
deriving DecidableEq, Repr

structure Selection where
  bytes : Bool := false
  extent : Extent := .last 10
  headers : Headers := .forSeveral
  follows : Bool := false
  lineEnd : UInt8 := 10
deriving DecidableEq, Repr

def options : OptionSet where
  letters := [⟨'c', 'c', .argument⟩, ⟨'n', 'n', .argument⟩, ⟨'f', 'f', .nothing⟩,
    ⟨'F', 'f', .nothing⟩, ⟨'q', 'q', .nothing⟩, ⟨'s', 's', .argument⟩, ⟨'v', 'v', .nothing⟩,
    ⟨'z', 'z', .nothing⟩] ++ "0123456789".toList.map fun c => ⟨c, c, .nothing⟩
  words := [⟨"bytes", 'c', .argument⟩, ⟨"follow", 'f', .perhaps⟩, ⟨"lines", 'n', .argument⟩,
    ⟨"max-unchanged-stats", 'm', .argument⟩, ⟨"pid", 'p', .argument⟩, ⟨"quiet", 'q', .nothing⟩,
    ⟨"retry", 'r', .nothing⟩, ⟨"silent", 'q', .nothing⟩, ⟨"sleep-interval", 's', .argument⟩,
    ⟨"verbose", 'v', .nothing⟩, ⟨"zero-terminated", 'z', .nothing⟩]

/-! ## Numbers -/

inductive Problem where
  | invalid | tooLarge
deriving DecidableEq, Repr

/-- The exponent of a letter that multiplies a number. -/
def power? (c : Char) : Option Nat :=
  if c = 'k' then some 1 else
    let place := "KMGTPEZYRQ".toList.findIdx (· = c)
    if place < 10 then some (place + 1) else if c = 'm' then some 2 else none

def factor? : List Char → Option Nat
  | [] => some 1
  | ['b'] => some 512
  | c :: rest =>
    (power? c).bind fun power => match rest with
      | [] | ['i', 'B'] => some (Nat.pow 1024 power)
      | ['B'] => some (Nat.pow 1000 power)
      | _ => none

def most : Nat := 18446744073709551615

def count (text : List Char) : Except Problem Nat :=
  let text := text.dropWhile fun c => c = ' ' || ('\t' ≤ c && c ≤ '\r')
  let digits := match text with
    | '+' :: rest => rest
    | _ => text
  let number := digits.takeWhile Char.isDigit
  let value := if number.isEmpty then 1
    else number.foldl (fun n c => n * 10 + (c.toNat - 48)) 0
  let suffix := digits.drop number.length
  if number.isEmpty && (suffix.isEmpty || text.length ≠ digits.length) then .error .invalid
  else match factor? suffix with
    | none => .error .invalid
    | some factor => if most < value * factor then .error .tooLarge else .ok (value * factor)

def extentOf (text : String) : Except (Problem × String) Extent :=
  let (fromPlace, chars) := match text.toList with
    | '+' :: _ => (true, text.toList)
    | '-' :: rest => (false, rest)
    | chars => (false, chars)
  match count chars with
  | .ok n => .ok (if fromPlace then .fromPlace n else .last n)
  | .error problem => .error (problem, String.ofList chars)

/-! ## Arguments -/

def Selection.withOption (s : Selection) (key : Char) (value : String) :
    Except String Selection :=
  let sized (bytes : Bool) (what : String) : Except String Selection :=
    match extentOf value with
    | .ok extent => .ok { s with bytes, extent }
    | .error (problem, text) => .error ("invalid number of " ++ what ++ ": " ++ quote text ++
        if problem = .tooLarge then ": Value too large for defined data type" else "")
  match key with
  | 'c' => sized true "bytes"
  | 'n' => sized false "lines"
  | 'q' => .ok { s with headers := .never }
  | 'v' => .ok { s with headers := .always }
  | 'f' => .ok { s with follows := true }
  | 'z' => .ok { s with lineEnd := 0 }
  | _ =>
    if key.isDigit then
      .error ("option used in invalid context -- " ++ String.singleton key)
    else .ok s

/-- The selection of an argument in the old form: a number after a sign, and letters. -/
def oldForm? (arg : String) : Option (Except String Selection) :=
  match arg.toList with
  | [] => none
  | sign :: chars =>
    let isShort : Bool := chars.isEmpty || chars = ['c']
    if sign ≠ '+' && (sign ≠ '-' || isShort) then none
    else
      let digits := chars.takeWhile Char.isDigit
      let rest := chars.drop digits.length
      let (bytes, size, rest) := match rest with
        | 'b' :: rest => (true, 5120, rest)
        | 'c' :: rest => (true, 10, rest)
        | 'l' :: rest => (false, 10, rest)
        | _ => (false, 10, rest)
      let follows := rest = ['f']
      if !follows && !rest.isEmpty then none
      else
        let unit := if chars.contains 'b' && !digits.isEmpty then ['b'] else []
        let n := if digits.isEmpty then .ok size else count (digits ++ unit)
        some (match n with
          | .ok n => .ok { bytes, follows, extent := if sign = '+' then .fromPlace n else .last n }
          | .error _ => .error ("invalid number: " ++ quote arg ++
              ": Value too large for defined data type"))

def mayBeOld (rest : List String) : Bool :=
  match rest with
  | [] => true
  | ["--"] | ["--", _] => true
  | [file] => file = "-" || !file.startsWith "-"
  | _ => false

structure Complaint where
  message : String
  hint : Bool := false
deriving DecidableEq, Repr

def read (args : List String) : Except Complaint (Selection × List Argument) := do
  let old : Option (Except String Selection) := match args with
    | arg :: rest => if mayBeOld rest then oldForm? arg else none
    | [] => none
  let start ← match old with
    | some (.ok s) => pure s
    | some (.error message) => throw { message }
    | none => pure {}
  let arguments := options.read (if old.isSome then args.drop 1 else args)
  let s ← arguments.foldlM (fun s argument => match argument with
    | .option key value =>
      match s.withOption key (value.getD "") with
      | .ok s => .ok s
      | .error message => .error { message }
    | .operand _ => .ok s
    | .fault message => .error { message, hint := true }) start
  return (s, arguments)

/-! ## Files -/

def Extent.items {α : Type} (e : Extent) (all : List α) : List α :=
  match e with
  | .fromPlace n => all.drop (n - 1)
  | .last n => all.drop (all.length - n)

/-- The lines of an input, with their ends. -/
def linesOf (lineEnd : UInt8) (bytes : List UInt8) : List (List UInt8) :=
  let (lines, line) := bytes.foldl (fun (lines, line) b =>
    if b = lineEnd then ((b :: line).reverse :: lines, []) else (lines, b :: line)) ([], [])
  (if line.isEmpty then lines else line.reverse :: lines).reverse

def shown (s : Selection) (bytes : List UInt8) : List UInt8 :=
  if s.bytes then s.extent.items bytes else (s.extent.items (linesOf s.lineEnd bytes)).flatten

def readRest (descriptor : Nat) : Nat → List (List UInt8) → Action (Except Error (List UInt8))
  | 0, chunks => return .ok chunks.reverse.flatten
  | fuel + 1, chunks => do
    match ← Action.call (.read descriptor 65536) with
    | .error e => return .error e
    | .ok [] => return .ok chunks.reverse.flatten
    | .ok bytes => readRest descriptor fuel (bytes :: chunks)

/-- A bound for the number of chunks, and for the looks at files that grow. -/
def many : Nat := 1000000000

def buffer : Nat := 4096

structure Shown where
  name : String
  descriptor : Nat
  isPipe : Bool

def displayName (file : String) : String := if file = "-" then "standard input" else file

def header (first : Bool) (name : String) : String :=
  (if first then "" else "\n") ++ "==> " ++ name ++ " <==\n"

def showOpen (name file : String) (s : Selection) (titled first : Bool) (descriptor : Nat) :
    Action (Nat × Option Shown) := do
  if titled then let _ ← say 1 (header first (displayName file))
  match ← readRest descriptor many [] with
  | .error e =>
    let failure := if e = .badDescriptor then "cannot fstat " else "error reading "
    complain name (failure ++ quoteAlways (displayName file) ++ ": " ++ e.message)
    return (1, none)
  | .ok bytes =>
    let out := shown s bytes
    match ← put out with
    | .error e =>
      let failure := if out.length < buffer then "write error: "
        else "error writing 'standard output': "
      complain name (failure ++ e.message)
      Action.exit 1
    | .ok () =>
      let isPipe ← match ← Action.call (.inspectDescriptor descriptor) with
        | .ok info => pure (decide (info.kind = .pipe))
        | .error _ => pure false
      return (0, some ⟨displayName file, descriptor, isPipe⟩)

def showAll (name : String) (s : Selection) (titled : Bool) : List String → (first : Bool) →
    Nat → List Shown → Action (Nat × List Shown)
  | [], _, status, seen => return (status, seen.reverse)
  | file :: files, first, status, seen => do
    let opened ← if file = "-" then pure (.ok 0) else Action.call (.openFile file .input)
    match opened with
    | .error e =>
      complain name
        ("cannot open " ++ quoteAlways (displayName file) ++ " for reading: " ++ e.message)
      showAll name s titled files first 1 seen
    | .ok descriptor =>
      let (code, entry) ← showOpen name file s titled first descriptor
      if !s.follows && file ≠ "-" then Action.call (.close descriptor)
      showAll name s titled files false (max status code) (entry.toList ++ seen)

def interval : Nat := 20000

/-- Shows what is added to files; `last` is the file that was shown last. -/
def follow (titled : Bool) (files : List Shown) : Nat → (last : Nat) → Action Nat
  | 0, _ => return 1
  | fuel + 1, last => do
    let _ ← Action.call (.sleep (some interval))
    let last ← files.foldlM (fun last file => do
      match ← readRest file.descriptor many [] with
      | .ok (b :: bytes) =>
        if titled && last ≠ file.descriptor then let _ ← say 1 (header false file.name)
        let _ ← Action.call (.write 1 (b :: bytes))
        return file.descriptor
      | _ => return last) last
    follow titled files fuel last

def run (name : String) (args : List String) : Action Nat := do
  match read args with
  | .error problem =>
    if problem.hint then refuse name problem.message
    else
      complain name problem.message
      return 1
  | .ok (s, arguments) =>
    if asksFor arguments 'H' || asksFor arguments 'V' then return 0
    let files := operandsOf arguments
    let files := if files.isEmpty then ["-"] else files
    let titled := s.headers = .always || (s.headers = .forSeveral && 1 < files.length)
    let (status, seen) ← showAll name s titled files true 0 []
    let growing := seen.filter fun file => !file.isPipe
    if s.follows && !growing.isEmpty then
      follow titled growing many ((growing.getLast?.map Shown.descriptor).getD 0)
    else if s.follows && seen.isEmpty then
      complain name "no files remaining"
      return 1
    else if files.contains "-" && (← isClosed 0) then
      complain name ("-: " ++ Error.badDescriptor.message)
      return 1
    else return status

end Conformance.Utility.Tail

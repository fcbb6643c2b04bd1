import Conformance.Utility.Options

/-! # Concatenation

The program that copies files to its output, as they are or with marks: numbers before lines, a sign
at line ends, and letters for characters that cannot be seen.
-/

namespace Conformance.Utility.Cat

open Conformance.System

inductive Numbering where
  | none | notBlank | all
deriving DecidableEq, Repr

structure Style where
  numbering : Numbering := .none
  squeezes : Bool := false
  ends : Bool := false
  tabs : Bool := false
  codes : Bool := false
deriving DecidableEq, Repr

def options : OptionSet where
  letters := "benstuvAET".toList.map fun c => ⟨c, c, .nothing⟩
  words := [⟨"number-nonblank", 'b', .nothing⟩, ⟨"number", 'n', .nothing⟩,
    ⟨"squeeze-blank", 's', .nothing⟩, ⟨"show-nonprinting", 'v', .nothing⟩,
    ⟨"show-ends", 'E', .nothing⟩, ⟨"show-tabs", 'T', .nothing⟩, ⟨"show-all", 'A', .nothing⟩]

def Style.withOption (s : Style) : Char → Style
  | 'b' => { s with numbering := .notBlank }
  | 'n' => { s with numbering := if s.numbering = .notBlank then .notBlank else .all }
  | 's' => { s with squeezes := true }
  | 'v' => { s with codes := true }
  | 'e' => { s with ends := true, codes := true }
  | 't' => { s with tabs := true, codes := true }
  | 'E' => { s with ends := true }
  | 'T' => { s with tabs := true }
  | 'A' => { s with ends := true, tabs := true, codes := true }
  | _ => s

inductive Place where
  | inLine
  /-- At the start of a line, after a number of blank lines, of which two are as good as more. -/
  | atStart (blanks : Nat)
deriving DecidableEq, Repr

structure Progress where
  place : Place := .atStart 0
  line : Nat := 0
  /-- Whether a carriage return waits for what follows it. -/
  pending : Bool := false
deriving DecidableEq, Repr

def numberBefore (n : Nat) : List Char :=
  let digits := (toString n).toList
  List.replicate (6 - digits.length) ' ' ++ digits ++ ['\t']

def lowCode (n : Nat) : List Char :=
  if n < 32 then ['^', Char.ofNat (n + 64)]
  else if n = 127 then ['^', '?']
  else [Char.ofNat n]

def shown (s : Style) (c : Char) : List Char :=
  if c = '\t' then (if s.tabs then ['^', 'I'] else ['\t'])
  else if !s.codes then [c]
  else if c.toNat < 128 then lowCode c.toNat
  else 'M' :: '-' :: lowCode (c.toNat - 128)

def lineEnd (s : Style) (p : Progress) : List Char × Progress :=
  let mark := if s.ends then ['$', '\n'] else ['\n']
  match p.place with
  | .inLine => (mark, { p with place := .atStart 0 })
  | .atStart blanks =>
    let next : Place := .atStart (min 2 (blanks + 1))
    if 1 ≤ blanks && s.squeezes then ([], { p with place := next })
    else if s.numbering = .all then
      (numberBefore (p.line + 1) ++ mark, { p with place := next, line := p.line + 1 })
    else (mark, { p with place := next })

def step (s : Style) (p : Progress) (c : Char) : List Char × Progress :=
  let waiting : List Char := if !p.pending then [] else if c = '\n' then ['^', 'M'] else ['\r']
  let p := { p with pending := false }
  if c = '\n' then
    let (text, p) := lineEnd s p
    (waiting ++ text, p)
  else
    let (number, p) : List Char × Progress := match p.place with
      | .inLine => ([], p)
      | .atStart _ =>
        if s.numbering = .none then ([], { p with place := .inLine })
        else (numberBefore (p.line + 1), { p with place := .inLine, line := p.line + 1 })
    if c = '\r' && s.ends && !s.codes then (waiting ++ number, { p with pending := true })
    else (waiting ++ number ++ shown s c, p)

def render (s : Style) (p : Progress) (text : List Char) : List Char × Progress :=
  let (parts, p) := text.foldl (fun (parts, p) c =>
    let (part, p) := step s p c
    (part :: parts, p)) ([], p)
  (parts.reverse.flatten, p)

def chunk : Nat := 131072

def manyChunks : Nat := 1000000000

def copy (name file : String) (s : Style) (descriptor : Nat) : Nat → Progress →
    Action (Nat × Progress)
  | 0, p => return (1, p)
  | fuel + 1, p => do
    match ← Action.call (.read descriptor chunk) with
    | .error e =>
      complain name (quoteIfNeeded file ++ ": " ++ e.message)
      return (1, p)
    | .ok [] => return (0, p)
    | .ok bytes =>
      let (out, p) := if s = {} then (bytes, p)
        else
          let (text, p) := render s p (ofBytes bytes)
          (bytesOf text, p)
      match ← Action.call (.write 1 out) with
      | .error e =>
        complain name ("write error: " ++ e.message)
        Action.exit 1
      | .ok () => copy name file s descriptor fuel p

/-- Whether copying a descriptor's input would feed it with its own output. -/
def feedsItself (descriptor : Nat) : Action Bool := do
  match ← Action.call (.inspectDescriptor descriptor), ← Action.call (.inspectDescriptor 1) with
  | .ok input, .ok output =>
    return input.kind = .regular && input.identity = output.identity &&
      input.position < output.position
  | _, _ => return false

def copyOpen (name file : String) (s : Style) (descriptor : Nat) (p : Progress) :
    Action (Nat × Progress) := do
  if ← feedsItself descriptor then
    complain name (quoteIfNeeded file ++ ": input file is output file")
    return (1, p)
  else copy name file s descriptor manyChunks p

def copyAll (name : String) (s : Style) : List String → Progress → Nat → Action Nat
  | [], p, status => do
    if p.pending then let _ ← say 1 "\r"
    return status
  | file :: files, p, status => do
    if file = "-" then
      let (code, p) ← copyOpen name file s 0 p
      copyAll name s files p (max status code)
    else
      match ← Action.call (.openFile file .input) with
      | .error e =>
        complain name (quoteIfNeeded file ++ ": " ++ e.message)
        copyAll name s files p 1
      | .ok descriptor =>
        let (code, p) ← copyOpen name file s descriptor p
        Action.call (.close descriptor)
        copyAll name s files p (max status code)

def run (name : String) (args : List String) : Action Nat := do
  let arguments := options.read args
  match faultOf? arguments with
  | some message => refuse name message
  | none =>
    if asksFor arguments 'H' || asksFor arguments 'V' then return 0
    let s := arguments.foldl (fun s argument => match argument with
      | .option key _ => s.withOption key
      | _ => s) {}
    if ← isClosed 1 then
      complain name ("standard output: " ++ Error.badDescriptor.message)
      return 1
    let files := operandsOf arguments
    let files := if files.isEmpty then ["-"] else files
    let status ← copyAll name s files {} 0
    if files.contains "-" then
      if ← isClosed 0 then
        complain name ("closing standard input: " ++ Error.badDescriptor.message)
        return 1
    return status

end Conformance.Utility.Cat

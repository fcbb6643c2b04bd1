import Conformance.Floating.Printer
import Conformance.Floating.Reader
import Conformance.Utility.Options

/-! # Sequences of numbers

The program that writes the numbers from a first to a last one. Natural numbers are exact at any
size; others have 64 significant bits. Without a format, numbers have the places that the operands
are written with.
-/

namespace Conformance.Utility.Seq

open Conformance.System
open Conformance (Floating)

def options : OptionSet where
  letters := [⟨'f', 'f', .argument⟩, ⟨'s', 's', .argument⟩, ⟨'w', 'w', .nothing⟩]
  words := [⟨"equal-width", 'w', .nothing⟩, ⟨"format", 'f', .argument⟩,
    ⟨"separator", 's', .argument⟩]
  inFront := true
  isOperand arg := match arg.toList with
    | '-' :: c :: _ => c = '.' || c.isDigit
    | _ => false

structure Style where
  format : Option String := none
  separator : String := "\n"
  equalWidth : Bool := false
deriving DecidableEq, Repr

def Style.ofArguments (arguments : List Argument) : Style :=
  arguments.foldl (fun s argument => match argument with
    | .option 'f' (some value) => { s with format := some value }
    | .option 's' (some value) => { s with separator := value }
    | .option 'w' _ => { s with equalWidth := true }
    | _ => s) {}

/-! ## Formats -/

structure Template where
  before : List Char := []
  layout : Floating.Layout
  after : List Char := []
deriving DecidableEq, Repr

def Template.text (t : Template) (x : Floating) : List Char :=
  t.before ++ Floating.format .extended t.layout x ++ t.after

/-- The text in front of a single percent sign, with doubled ones made single, and what follows that
sign; nothing without such a sign. -/
def splitAtPercent : List Char → List Char × Option (List Char)
  | [] => ([], none)
  | '%' :: '%' :: rest =>
    let (text, after) := splitAtPercent rest
    ('%' :: text, after)
  | '%' :: rest => ([], some rest)
  | c :: rest =>
    let (text, after) := splitAtPercent rest
    (c :: text, after)

def Template.read (format : String) : Except String Template :=
  let about (problem : String) : Except String Template :=
    .error ("format " ++ quote format ++ " " ++ problem)
  match splitAtPercent format.toList with
  | (_, none) => about "has no % directive"
  | (before, some rest) =>
    let flags := rest.takeWhile "-+#0 '".toList.contains
    let rest := rest.drop flags.length
    let width := rest.takeWhile Char.isDigit
    let rest := rest.drop width.length
    let number (digits : List Char) : Nat := digits.foldl (fun n c => n * 10 + (c.toNat - 48)) 0
    let (precision, rest) := match rest with
      | '.' :: rest =>
        let digits := rest.takeWhile Char.isDigit
        (some (number digits), rest.drop digits.length)
      | _ => (none, rest)
    let rest := match rest with
      | 'L' :: rest => rest
      | _ => rest
    match rest with
    | [] => about "ends in %"
    | letter :: rest =>
      if !"efgaEFGA".toList.contains letter then
        about ("has unknown %" ++ String.singleton letter ++ " directive")
      else match splitAtPercent rest with
        | (_, some _) => about "has too many % directives"
        | (after, none) =>
          .ok { before, layout := { flags, width := number width, precision, letter }, after }

/-! ## Operands -/

/-- A number with the width and the places that it is written with; no places are known of a
hexadecimal number with a point. -/
structure Operand where
  value : Floating := .ofInt 1
  width : Int := 1
  places : Option Int := some 0
deriving Repr

def exponentOf (text : List Char) : Int :=
  let (negative, digits) := match text with
    | '-' :: rest => (true, rest)
    | '+' :: rest => (false, rest)
    | _ => (false, text)
  let (value, _, _) := Floating.readDigits 10 digits 0 0
  if negative then -(value : Int) else value

def measure (text : List Char) : Int × Option Int :=
  let point : Option Nat := text.findIdx? (· = '.')
  let letter : Option Nat := text.findIdx? fun c => c = 'e' || c = 'E'
  let length : Int := text.length
  let (width, places) : Int × Option Int := match point with
    | none => (length, if text.contains 'p' then none else some 0)
    | some i =>
      let fraction := (text.drop (i + 1)).takeWhile fun c => c ≠ 'e' && c ≠ 'E'
      let isBare : Bool := match (text.take i).getLast? with
        | some c => !c.isDigit
        | none => true
      (length + (if fraction.isEmpty then -1 else if isBare then 1 else 0),
        some (fraction.length : Int))
  match letter with
  | none => (width, places)
  | some i =>
    let exponent := exponentOf (text.drop (i + 1))
    let places := places.map fun n => n + if exponent < 0 then -exponent else -(min n exponent)
    let width := width - (length - i)
    let width := if exponent < 0 then
        match point with
        | some j => if i = j + 1 then width + 1 else width
        | none => width + 1
      else width
    (width + exponent.natAbs, places)

def Operand.read (text : String) : Except String Operand :=
  let chars := text.toList
  match Floating.read? .extended chars with
  | none => .error ("invalid floating point argument: " ++ quote text)
  | some r =>
    if !r.rest.isEmpty || (r.outOfRange && !r.value.isZero) then
      .error ("invalid floating point argument: " ++ quote text)
    else match r.value with
      | .undefined _ => .error ("invalid 'not-a-number' argument: " ++ quote text)
      | value =>
        let chars := chars.dropWhile fun c => Floating.isSpace c || c = '+'
        let isDecimal : Bool := !(chars.any fun c => c = 'x' || c = 'X')
        let isFinite : Bool := match value with
          | .finite .. => true
          | _ => false
        if isDecimal && isFinite then
          let (width, places) := measure chars
          .ok { value, width, places }
        else
          .ok { value, width := 0,
                places := if chars.contains '.' || chars.contains 'p' then none else some 0 }

structure Range where
  first : Operand := {}
  step : Operand := {}
  last : Operand := {}
deriving Repr

def Range.read : List String → Except String Range
  | [last] => do return { last := ← Operand.read last }
  | [first, last] => do
    let first ← Operand.read first
    return { first, last := ← Operand.read last }
  | first :: step :: last :: _ => do
    let start ← Operand.read first
    let increment ← Operand.read step
    if increment.value.isZero then throw ("invalid Zero increment value: " ++ quote step)
    return ⟨start, increment, ← Operand.read last⟩
  | [] => .ok {}

/-- The template of numbers that no format is given for. -/
def Range.template (r : Range) (equalWidth : Bool) : Template :=
  match r.first.places, r.step.places, r.last.places with
  | some first, some step, some last =>
    let places := max first step
    if equalWidth then
      let firstWidth := r.first.width + (places - first) + if first = 0 && places ≠ 0 then 1 else 0
      let lastWidth := r.last.width + (places - last) +
        (if last ≠ 0 && places = 0 then -1 else 0) + if last = 0 && places ≠ 0 then 1 else 0
      { layout := { flags := ['0'], width := (max firstWidth lastWidth).toNat,
                    precision := some places.toNat, letter := 'f' } }
    else { layout := { precision := some places.toNat, letter := 'f' } }
  | _, _, _ => { layout := { letter := 'g' } }

/-! ## Natural numbers -/

/-- A sequence of natural numbers; without a last one it does not end. -/
structure Naturals where
  first : Nat
  step : Nat
  last : Option Nat
deriving DecidableEq, Repr

def natural? (text : String) : Option Nat :=
  if text.toList.isEmpty || !text.toList.all Char.isDigit then none
  else some (text.toList.foldl (fun n c => n * 10 + (c.toNat - 48)) 0)

def greatestStep : Nat := 200

def isPlainStep (step : Nat) : Bool := 0 < step && step ≤ greatestStep

def Naturals.ofDigits? : List String → Option Naturals
  | [last] => (natural? last).map fun last => ⟨1, 1, some last⟩
  | [first, last] => do return ⟨← natural? first, 1, some (← natural? last)⟩
  | [first, step, last] => do
    let step ← natural? step
    if isPlainStep step then return ⟨← natural? first, step, some (← natural? last)⟩ else none
  | _ => none

def Operand.natural? (o : Operand) : Option Nat :=
  match o.value with
  | .finite negative magnitude exponent =>
    let (num, den) := Floating.ratio magnitude exponent
    if negative || o.places ≠ some 0 then none else some (Binary64.roundDiv num den)
  | _ => none

/-- The sequence of a range that holds natural numbers only; `operands` is the number of
operands, and `step` how the step is written. -/
def Range.naturals? (r : Range) (step : Option String) : Option Naturals := do
  let step ← match step with
    | none => some 1
    | some text => Seq.natural? text
  let first ← r.first.natural?
  if !isPlainStep step then none
  else match r.last.value with
    | .infinite false => return ⟨first, step, none⟩
    | _ => return ⟨first, step, some (← r.last.natural?)⟩

/-! ## Output -/

def chunk : Nat := 4096

structure Buffer where
  parts : List (List Char) := []
  size : Nat := 0

def Buffer.add (b : Buffer) (text : List Char) : Buffer :=
  ⟨text :: b.parts, b.size + text.length⟩

def Buffer.flush (name : String) (b : Buffer) : Action Buffer := do
  if b.parts.isEmpty then return {}
  match ← Action.call (.write 1 (bytesOf b.parts.reverse.flatten)) with
  | .ok () => return {}
  | .error e =>
    complain name ("write error: " ++ e.message)
    Action.exit 1

def Buffer.settle (name : String) (b : Buffer) : Action Buffer :=
  if b.size < chunk then pure b else b.flush name

def many : Nat := 1000000000000

def writeNaturals (name : String) (s : Naturals) (separator : List Char) : Nat → (n : Nat) →
    Buffer → Action Nat
  | 0, _, _ => return 1
  | fuel + 1, n, b => do
    let next := n + s.step
    let b := b.add (toString n).toList
    if s.last.any (· < next) then
      let _ ← (b.add ['\n']).flush name
      return 0
    else
      let b ← (b.add separator).settle name
      writeNaturals name s separator fuel next b

def isPast (r : Range) (x : Floating) : Bool :=
  if r.step.value.lt (.ofInt 0) then x.lt r.last.value else r.last.value.lt x

/-- Whether a number past the last one looks like the last one, and not like the one before it. -/
def looksLast (t : Template) (r : Range) (before x : Floating) : Bool :=
  let digits := Floating.format .extended t.layout x
  match Floating.read? .extended digits with
  | some seen => seen.rest.isEmpty && !(seen.value.lt r.last.value) && !(r.last.value.lt seen.value)
      && digits ≠ Floating.format .extended t.layout before
  | none => false

def writeNumbers (name : String) (t : Template) (r : Range) (separator : List Char) :
    Nat → (index : Nat) → (x : Floating) → (isExtra : Bool) → Buffer → Action Nat
  | 0, _, _, _, _ => return 1
  | fuel + 1, index, x, isExtra, b => do
    let b := b.add (t.text x)
    let next := r.first.value.add .extended
      (Floating.mul .extended (.ofInt (index + 1 : Nat)) r.step.value)
    let past := isPast r next
    if isExtra || (past && !looksLast t r x next) then
      let _ ← (b.add ['\n']).flush name
      return 0
    else
      let b ← (b.add separator).settle name
      writeNumbers name t r separator fuel (index + 1) next past b

def writeRange (name : String) (s : Style) (template : Option Template) (operands : List String)
    (r : Range) : Action Nat := do
  let separator := s.separator.toList
  let isPlain : Bool := !s.equalWidth && template.isNone && separator.length = 1
  let step? : Option String := if operands.length = 3 then operands[1]? else none
  let naturals? := if isPlain then r.naturals? step? else none
  match naturals? with
  | some n =>
    if n.last.any (· < n.first) then return 0
    else writeNaturals name n separator many n.first {}
  | none =>
    if isPast r r.first.value then return 0
    else
      writeNumbers name (template.getD (r.template s.equalWidth)) r separator many 0 r.first.value
        false {}

def run (name : String) (args : List String) : Action Nat := do
  let arguments := options.read args
  match faultOf? arguments with
  | some message => refuse name message
  | none =>
    if asksFor arguments 'H' || asksFor arguments 'V' then return 0
    let s := Style.ofArguments arguments
    let operands := operandsOf arguments
    if operands.isEmpty then refuse name "missing operand"
    else if 3 < operands.length then
      refuse name ("extra operand " ++ quote ((operands.drop 3).headD ""))
    else match s.format.mapM Template.read with
      | .error message =>
        complain name message
        return 1
      | .ok template =>
        if template.isSome && s.equalWidth then
          refuse name
            "format string may not be specified when printing equal width strings"
        else
          let isPlain : Bool := !s.equalWidth && template.isNone && s.separator.length = 1
          match if isPlain then Naturals.ofDigits? operands else none with
          | some n =>
            if n.last.any (· < n.first) then return 0
            else writeNaturals name n s.separator.toList many n.first {}
          | none =>
            match Range.read operands with
            | .error message => refuse name message
            | .ok r => writeRange name s template operands r

end Conformance.Utility.Seq

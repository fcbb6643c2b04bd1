import Conformance.Format
import Conformance.Shell.Builtin.Options

/-! # Output and input

The utilities of the shell itself that write texts and read lines.
-/

namespace Conformance.Shell

open Conformance.System

def formatWords : Format.Problem → String
  | .notNumeric a => a ++ ": expected numeric value"
  | .notWhollyNumeric a => a ++ ": not completely converted"
  | .outOfRange a => a ++ ": Numerical result out of range"
  | .afterCharacter a | .excessArguments a => a
  | .invalidDirective d => d ++ ": invalid directive"
  | .missingDirective => "missing format character"
  | .missingDigits => "missing hexadecimal number in escape"
  | .noCharacter e => "invalid universal character name " ++ e
  | .invalidWidth a | .invalidPrecision a => a

def tellEvents : List Format.Event → Nat → Run Nat
  | [], status => return status
  | .text text :: rest, status => do
    modify fun s => { s with said := text :: s.said }
    tellEvents rest status
  | .problem p :: rest, status => do
    if p.isFatal then fail (formatWords p)
    else if p.isWarning then tellEvents rest status
    else
      warn (formatWords p)
      tellEvents rest 1

namespace Builtin

def echo (args : List String) : Run Nat := do
  modify fun s => { s with said := Format.echo args :: s.said }
  return 0

def printf (args : List String) : Run Nat := do
  let (_, args) ← optionsOf "" args
  match args with
  | [] => fail "usage: printf format [arg ...]"
  | format :: arguments => tellEvents (Format.printf .shell quoted format arguments) 0

/-! ## Lines -/

/-- Reads a line byte by byte. The answer is its glyphs and whether the line was ended. A backslash
makes a character stand for itself and joins lines, unless the line is taken as it is. -/
def readGlyphs (raw : Bool) : Nat → (escaped : Bool) → List Glyph → Run (List Glyph × Bool)
  | 0, _, taken => return (taken.reverse, false)
  | fuel + 1, escaped, taken => do
    match ← Run.call (.read 0 1) with
    | .ok [byte] =>
      let c := Char.ofNat byte.toNat
      if c = '\x00' then readGlyphs raw fuel escaped taken
      else if escaped then
        readGlyphs raw fuel false (if c = '\n' then taken else .escaped c :: taken)
      else if c = '\\' && !raw then readGlyphs raw fuel true taken
      else if c = '\n' then return (taken.reverse, true)
      else readGlyphs raw fuel false (.plain c :: taken)
    | .ok _ => return (taken.reverse, false)
    | .error .interrupted =>
      takeArrivals
      if (← get).pending.isEmpty then readGlyphs raw fuel escaped taken
      else return (taken.reverse, false)
    | .error _ => return (taken.reverse, false)

def splitsLine (separators : List Char) (g : Glyph) : Bool :=
  match g with
  | .plain c => separators.contains c
  | _ => false

def spacesLine (separators : List Char) (g : Glyph) : Bool :=
  splitsLine separators g && g.char?.any isSpacing

structure LineCut where
  left : Nat
  fields : List (List Glyph) := []
  current : List Glyph := []
  /-- Whether white space has ended a field, so that one other separator belongs to the same end. -/
  afterSpace : Bool := false
  /-- The last field without what may have to be dropped at its end. -/
  kept : Option (List Glyph) := none

namespace LineCut

def takeFirst (separators : List Char) (l : LineCut) (g : Glyph) : LineCut :=
  let splits := splitsLine separators g
  let spaces := spacesLine separators g
  if !splits then { l with current := g :: l.current, afterSpace := false }
  else if l.afterSpace then { l with afterSpace := spaces }
  else if l.current.isEmpty && spaces then l
  else if l.left = 1 then
    { l with left := 0, kept := some l.current, current := g :: l.current, afterSpace := spaces }
  else
    { l with
      left := l.left - 1
      fields := l.current :: l.fields
      current := []
      afterSpace := spaces }

def takeLast (separators : List Char) (l : LineCut) (g : Glyph) : LineCut :=
  let l' := { l with current := g :: l.current }
  if spacesLine separators g then { l' with kept := some (l.kept.getD l.current) }
  else if splitsLine separators g && l.afterSpace then { l' with afterSpace := false }
  else { l' with kept := none, afterSpace := false }

def take (separators : List Char) (l : LineCut) (g : Glyph) : LineCut :=
  match g with
  | .escaped _ => { l with current := g :: l.current, afterSpace := false }
  | _ => if l.left = 0 then l.takeLast separators g else l.takeFirst separators g

end LineCut

/-- Cuts a line into at most as many fields as asked for. The last one takes the rest, without the
separator that ends it if it is one field. -/
def cutLine (separators : List Char) (count : Nat) (line : List Glyph) : List String :=
  let l := line.foldl (LineCut.take separators) { left := count }
  let fields := ((l.kept.getD l.current) :: l.fields).reverse
  fields.map fun field => String.ofList (textOf field.reverse)

def read (args : List String) : Run Nat := do
  let (given, names) ← optionsOf "p:r" args
  let raw := given.any fun option => option.1 = 'r'
  if names.isEmpty then fail "arg count"
  let (line, ended) ← readGlyphs raw manyTimes false []
  let fields := cutLine (← get).separators names.length line
  let fields := fields ++ List.replicate (names.length - fields.length) ""
  for (name, field) in names.zip fields do assign name field
  return if ended then 0 else 1

end Builtin

end Conformance.Shell

import Conformance.Yaml.Cursor
import Conformance.Json.Reader
import Conformance.Text.Utf8

/-! # Scalars

Reading the text of a scalar: plain, in quotes, or as a block of lines. A line break inside a scalar
is folded into a blank, unless more breaks follow it or the style keeps breaks. All readers answer
with nothing when the scalar is malformed; their fuel is computed from what is left of the text.
-/

namespace Conformance.Yaml

inductive Style where
  | plain | singleQuoted | doubleQuoted | literal | folded
deriving DecidableEq, Repr

/-- Blanks and line breaks between two words of a scalar. `leading` is the first break and
`trailing` are the others; blanks count only before the first break. -/
structure Gap where
  spaces : List Char := []
  leading : List Char := []
  trailing : List Char := []
  broken : Bool := false

namespace Gap

def foldedBreaks (g : Gap) : List Char :=
  if g.leading.head? = some '\n' then
    if g.trailing.isEmpty then [' '] else g.trailing
  else g.leading ++ g.trailing

def text (g : Gap) : List Char := if g.broken then g.foldedBreaks else g.spaces

end Gap

/-- Reads the blanks and breaks in front. With a required indentation, a tab before it is an
error. -/
def readGap (indent : Option Nat) : Nat → Gap → Cursor → Option (Gap × Cursor)
  | 0, g, c => some (g, c)
  | fuel + 1, g, c =>
    match c.at? 0 with
    | none => some (g, c)
    | some x =>
      if isSpace x then
        if g.broken && x = '\t' && indent.any (c.column < ·) then none
        else
          let g := if g.broken then g else { g with spaces := g.spaces ++ [x] }
          readGap indent fuel g (c.advance 1)
      else if isBreak x then
        let (text, next) := c.takeBreak
        let g :=
          if g.broken then { g with trailing := g.trailing ++ text }
          else { g with spaces := [], leading := text, broken := true }
        readGap indent fuel g next
      else some (g, c)

/-! ## Plain scalars -/

/-- Whether a plain scalar ends at this character. Inside brackets a comma or a bracket ends it. -/
def endsPlain (inFlow : Bool) (c : Cursor) : Bool :=
  (c.has 0 ':' && c.blankAt 1) ||
    (inFlow && (c.at? 0).any fun x => x = ',' || x = '[' || x = ']' || x = '\x7b' || x = '\x7d')

/-- Whether a colon stands here that is neither an indicator nor part of a word in brackets. -/
def strayColon (inFlow : Bool) (c : Cursor) : Bool :=
  inFlow && c.has 0 ':' && (c.at? 1).any fun x =>
    x = ',' || x = '?' || x = '[' || x = ']' || x = '\x7b' || x = '\x7d'

def readPlainWord (inFlow : Bool) : Nat → Cursor → Option (List Char × Cursor)
  | 0, c => some ([], c)
  | fuel + 1, c =>
    match c.at? 0 with
    | none => some ([], c)
    | some x =>
      if isSpace x || isBreak x then some ([], c)
      else if strayColon inFlow c then none
      else if endsPlain inFlow c then some ([], c)
      else (readPlainWord inFlow fuel (c.advance 1)).map fun (word, c) => (x :: word, c)

/-- Reads the words of a plain scalar from `c` on; `gap` stands before the next one. The answer
tells whether a line break was read after the last word. -/
def readPlain (inFlow : Bool) (indent : Nat) :
    Nat → (text : List Char) → Gap → Cursor → Option (List Char × Bool × Cursor)
  | 0, text, gap, c => some (text, gap.broken, c)
  | fuel + 1, text, gap, c =>
    if c.atDocumentMark || c.has 0 '#' then some (text, gap.broken, c)
    else
      match readPlainWord inFlow (c.rest.length + 1) c with
      | none => none
      | some (word, next) =>
        let text := if word.isEmpty then text else text ++ gap.text ++ word
        let gap : Gap := if word.isEmpty then gap else {}
        if !next.spaceAt 0 && !next.breakAt 0 then some (text, gap.broken, next)
        else
          match readGap (some indent) (next.rest.length + 1) gap next with
          | none => none
          | some (gap, next) =>
            if !inFlow && next.column < indent then some (text, gap.broken, next)
            else readPlain inFlow indent fuel text gap next

/-! ## Quoted scalars -/

def escaped? (c : Char) : Option Char :=
  if c = '0' then some '\x00'
  else if c = 'a' then some '\x07'
  else if c = 'b' then some '\x08'
  else if c = 't' ∨ c = '\t' then some '\t'
  else if c = 'n' then some '\n'
  else if c = 'v' then some '\x0b'
  else if c = 'f' then some '\x0c'
  else if c = 'r' then some '\r'
  else if c = 'e' then some '\x1b'
  else if c = ' ' then some ' '
  else if c = '\"' then some '\"'
  else if c = '/' then some '/'
  else if c = '\\' then some '\\'
  else if c = 'N' then some '\u0085'
  else if c = '_' then some '\u00a0'
  else if c = 'L' then some '\u2028'
  else if c = 'P' then some '\u2029'
  else none

def codeLength? (c : Char) : Option Nat :=
  if c = 'x' then some 2 else if c = 'u' then some 4 else if c = 'U' then some 8 else none

def hexNumber? (digits : List Char) : Option Nat :=
  digits.foldlM (fun n c => (Json.hexValue? c).map (n * 16 + ·)) 0

def readEscape (c : Cursor) : Option (Char × Cursor) :=
  match c.at? 0 with
  | none => none
  | some x =>
    match codeLength? x with
    | none => (escaped? x).map fun e => (e, c.advance 1)
    | some count =>
      let digits := (c.rest.drop 1).take count
      if digits.length < count then none
      else
        match hexNumber? digits with
        | none => none
        | some n =>
          if (0xD800 ≤ n ∧ n ≤ 0xDFFF) ∨ 0x10FFFF < n then none
          else some (Char.ofNat n, c.advance (count + 1))

/-- Reads a word of a quoted scalar: up to a blank, a break or the closing quote. The flag tells
whether it ended at an escaped line break, which is then consumed. -/
def readQuotedWord (single : Bool) : Nat → Cursor → Option (List Char × Bool × Cursor)
  | 0, c => some ([], false, c)
  | fuel + 1, c =>
    match c.at? 0 with
    | none => some ([], false, c)
    | some x =>
      if isSpace x || isBreak x then some ([], false, c)
      else if single && x = '\'' && c.has 1 '\'' then
        (readQuotedWord single fuel (c.advance 2)).map fun (word, b, c) => ('\'' :: word, b, c)
      else if x = (if single then '\'' else '\"') then some ([], false, c)
      else if !single && x = '\\' && c.breakAt 1 then some ([], true, (c.advance 1).skipBreak)
      else if !single && x = '\\' then
        match readEscape (c.advance 1) with
        | none => none
        | some (e, next) =>
          (readQuotedWord single fuel next).map fun (word, b, c) => (e :: word, b, c)
      else (readQuotedWord single fuel (c.advance 1)).map fun (word, b, c) => (x :: word, b, c)

def readQuoted (single : Bool) : Nat → (text : List Char) → Cursor → Option (List Char × Cursor)
  | 0, _, _ => none
  | fuel + 1, text, c =>
    if c.atDocumentMark || c.atEnd then none
    else
      match readQuotedWord single (c.rest.length + 1) c with
      | none => none
      | some (word, broken, next) =>
        let text := text ++ word
        if next.has 0 (if single then '\'' else '\"') then some (text, next.advance 1)
        else
          match readGap none (next.rest.length + 1) { broken := broken } next with
          | none => none
          | some (gap, next) => readQuoted single fuel (text ++ gap.text) next

/-! ## Block scalars -/

inductive Chomping where
  | strip | clip | keep
deriving DecidableEq, Repr

def readChomping (c : Cursor) : Option (Chomping × Cursor) :=
  if c.has 0 '+' then some (.keep, c.advance 1)
  else if c.has 0 '-' then some (.strip, c.advance 1)
  else none

/-- The indentation indicator in front: zero if there is none, and an error if it is zero. -/
def readIncrement (c : Cursor) : Option (Nat × Cursor) :=
  match c.at? 0 with
  | some x =>
    if x.isDigit then if x = '0' then none else some (x.toNat - 48, c.advance 1) else some (0, c)
  | none => some (0, c)

def readHeader (c : Cursor) : Option (Chomping × Nat × Cursor) :=
  match readChomping c with
  | some (chomping, c) => (readIncrement c).map fun (increment, c) => (chomping, increment, c)
  | none =>
    match readIncrement c with
    | none => none
    | some (0, c) => some (.clip, 0, c)
    | some (increment, c) =>
      match readChomping c with
      | some (chomping, c) => some (chomping, increment, c)
      | none => some (.clip, increment, c)

/-- The line breaks before a line of a block. -/
structure BlockBreaks where
  breaks : List Char
  deepest : Nat
  cursor : Cursor

/-- Reads indentation and empty lines. An `indent` of zero is not known yet. -/
def readBlockBreaks (indent : Nat) :
    Nat → (breaks : List Char) → (deepest : Nat) → Cursor → Option BlockBreaks
  | 0, breaks, deepest, c => some ⟨breaks, deepest, c⟩
  | fuel + 1, breaks, deepest, c =>
    let spaces := (c.rest.takeWhile (· = ' ')).length
    let c := c.advance (if indent = 0 then spaces else min spaces (indent - c.column))
    let deepest := max deepest c.column
    if (indent = 0 || c.column < indent) && c.has 0 '\t' then none
    else if c.breakAt 0 then
      let (text, next) := c.takeBreak
      readBlockBreaks indent fuel (breaks ++ text) deepest next
    else some ⟨breaks, deepest, c⟩

/-- Reads the lines of a block. `leading` and `trailing` are the breaks since the last line and
`blank` tells whether that line started with a blank. The answer ends with the breaks after the
last line. -/
def readBlockLines (isLiteral : Bool) (indent : Nat) :
    Nat → (text leading trailing : List Char) → (blank : Bool) → Cursor →
      Option (List Char × List Char × List Char × Cursor)
  | 0, text, leading, trailing, _, c => some (text, leading, trailing, c)
  | fuel + 1, text, leading, trailing, blank, c =>
    if c.column ≠ indent || c.atEnd then some (text, leading, trailing, c)
    else
      let startsBlank := c.spaceAt 0
      let joint :=
        if !isLiteral && leading.head? = some '\n' && !blank && !startsBlank then
          if trailing.isEmpty then [' '] else trailing
        else leading ++ trailing
      let (line, next) := c.take fun x => !isBreak x
      let (leading, next) := next.takeBreak
      match readBlockBreaks indent (next.rest.length + 1) [] 0 next with
      | none => none
      | some found =>
        readBlockLines isLiteral indent fuel (text ++ joint ++ line) leading found.breaks
          startsBlank found.cursor

/-- Reads a block scalar after its mark; `parent` is the indentation of the collection around it,
or -1. -/
def readBlock (isLiteral : Bool) (parent : Int) (c : Cursor) : Option (List Char × Cursor) := do
  let (chomping, increment, c) ← readHeader c
  let c := c.skipWhile isSpace
  let c := if c.has 0 '#' then c.skipLine else c
  if !c.atEnd && !c.breakAt 0 then none
  let c := c.skipBreak
  let given := if increment = 0 then 0 else (max parent 0).toNat + increment
  let found ← readBlockBreaks given (c.rest.length + 1) [] 0 c
  let indent :=
    if given = 0 then max (max found.deepest (parent + 1).toNat) 1 else given
  let (text, leading, trailing, c) ←
    readBlockLines isLiteral indent (found.cursor.rest.length + 1) [] [] found.breaks false
      found.cursor
  let text := if chomping = .strip then text else text ++ leading
  let text := if chomping = .keep then text ++ trailing else text
  some (text, c)

end Conformance.Yaml

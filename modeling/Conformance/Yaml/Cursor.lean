/-! # Positions in a YAML text

A cursor is what is left of the text, with the place it starts at. Moving a cursor keeps the place
in step. A line break is a line feed, a carriage return, both, or one of the three breaks beyond
ASCII.
-/

namespace Conformance.Yaml

def isAllowed (c : Char) : Bool :=
  let n := c.toNat
  n = 0x9 || n = 0xA || n = 0xD || (0x20 ≤ n && n ≤ 0x7E) || n = 0x85 || (0xA0 ≤ n && n ≤ 0xD7FF) ||
    (0xE000 ≤ n && n ≤ 0xFFFD) || 0x10000 ≤ n

def isSpace (c : Char) : Bool := c = ' ' || c = '\t'

def isBreak (c : Char) : Bool :=
  c = '\n' || c = '\r' || c = '\u0085' || c = '\u2028' || c = '\u2029'

def isName (c : Char) : Bool := c.isAlphanum || c = '_' || c = '-'

structure Cursor where
  rest : List Char
  index : Nat := 0
  line : Nat := 0
  column : Nat := 0
deriving Repr

namespace Cursor

def at? (c : Cursor) (n : Nat) : Option Char := c.rest[n]?

/-- Whether the character `n` places on is `x`. -/
def has (c : Cursor) (n : Nat) (x : Char) : Bool := c.at? n = some x

def atEnd (c : Cursor) : Bool := c.rest.isEmpty

def spaceAt (c : Cursor) (n : Nat) : Bool := (c.at? n).any isSpace

def breakAt (c : Cursor) (n : Nat) : Bool := (c.at? n).any isBreak

/-- Whether a word cannot go on `n` places on: there is a space, a break or the end. -/
def blankAt (c : Cursor) (n : Nat) : Bool := (c.at? n).all fun x => isSpace x || isBreak x

def advance (c : Cursor) (n : Nat) : Cursor :=
  { rest := c.rest.drop n, index := c.index + min n c.rest.length, line := c.line,
    column := c.column + min n c.rest.length }

def take (c : Cursor) (p : Char → Bool) : List Char × Cursor :=
  (c.rest.takeWhile p, c.advance (c.rest.takeWhile p).length)

def skipWhile (c : Cursor) (p : Char → Bool) : Cursor := (c.take p).2

def nextLine (c : Cursor) (rest : List Char) (used : Nat) : Cursor :=
  { rest := rest, index := c.index + used, line := c.line + 1, column := 0 }

/-- Reads a line break: what it counts as inside a scalar, and the cursor after it. -/
def takeBreak (c : Cursor) : List Char × Cursor :=
  match c.rest with
  | '\r' :: '\n' :: rest => (['\n'], c.nextLine rest 2)
  | '\u2028' :: rest => (['\u2028'], c.nextLine rest 1)
  | '\u2029' :: rest => (['\u2029'], c.nextLine rest 1)
  | x :: rest => if isBreak x then (['\n'], c.nextLine rest 1) else ([], c)
  | [] => ([], c)

def skipBreak (c : Cursor) : Cursor := c.takeBreak.2

def skipLine (c : Cursor) : Cursor := c.skipWhile fun x => !isBreak x

/-- Whether a line starts here with three marks and a blank: the sign of a document's start or
end. -/
def atMarks (c : Cursor) (mark : Char) : Bool :=
  c.column = 0 && c.has 0 mark && c.has 1 mark && c.has 2 mark && c.blankAt 3

def atDocumentMark (c : Cursor) : Bool := c.atMarks '-' || c.atMarks '.'

end Cursor

end Conformance.Yaml

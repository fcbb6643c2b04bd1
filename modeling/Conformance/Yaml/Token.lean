import Conformance.Yaml.Scalar

/-! # Tokens

A YAML text as a list of tokens. Indentation becomes explicit: `blockEnd` closes what a deeper
column opened. A key is seen to be one only at its colon, so the tokens that announce it are put in
front of it then; until then the place is kept as a candidate.
-/

namespace Conformance.Yaml

inductive Token where
  | streamEnd
  | version (major minor : Nat)
  | tagHandle (handle expansion : String)
  | documentStart | documentEnd
  | blockSequenceStart | blockMappingStart | blockEnd
  | flowSequenceStart | flowSequenceEnd | flowMappingStart | flowMappingEnd
  | blockEntry | flowEntry | key | value
  | alias (name : String)
  | anchor (name : String)
  | tag (handle suffix : String)
  | scalar (style : Style) (text : String)
deriving DecidableEq, Repr

structure Candidate where
  /-- Whether the text is wrong if no colon follows. -/
  required : Bool
  position : Nat
  index : Nat
  line : Nat
  column : Nat

structure Scan where
  cursor : Cursor
  tokens : List Token := []
  /-- The column of the innermost block collection; -1 outside of all. -/
  indent : Int := -1
  outer : List Int := []
  /-- The candidates: one for the block level, and one for each open bracket, innermost first. -/
  candidates : List (Option Candidate) := [none]
  keyAllowed : Bool := true

namespace Scan

def inFlow (s : Scan) : Bool := s.candidates.length > 1

def push (s : Scan) (t : Token) : Scan := { s with tokens := s.tokens ++ [t] }

/-- Appends a token and moves over the characters it is written with. -/
def pushOver (s : Scan) (t : Token) (width : Nat) : Scan :=
  { s.push t with cursor := s.cursor.advance width }

def candidate (s : Scan) : Option Candidate := s.candidates.head?.join

def setCandidate (s : Scan) (k : Option Candidate) : Scan :=
  { s with candidates := k :: s.candidates.tail }

def dropCandidate (s : Scan) : Option Scan :=
  if s.candidate.any Candidate.required then none else some (s.setCandidate none)

/-- Whether a candidate is too far back to become a key: on an earlier line, or more than 1024
characters. -/
def isStale (s : Scan) (k : Candidate) : Bool :=
  k.line < s.cursor.line || k.index + 1024 < s.cursor.index

def dropStale (s : Scan) : Option Scan :=
  if s.candidates.any fun k => k.any fun k => s.isStale k && k.required then none
  else some { s with candidates := s.candidates.map fun k => k.filter fun k => !s.isStale k }

def saveCandidate (s : Scan) : Option Scan :=
  if s.keyAllowed then
    (s.dropCandidate).map fun s => s.setCandidate (some
      { required := !s.inFlow && s.indent = s.cursor.column, position := s.tokens.length,
        index := s.cursor.index, line := s.cursor.line, column := s.cursor.column })
  else some s

/-- Opens a block collection at `column`, with its token at `position`, unless one that is as deep
is open. -/
def openBlock (s : Scan) (column : Nat) (position : Nat) (t : Token) : Scan :=
  if !s.inFlow && s.indent < column then
    { s with
      indent := column
      outer := s.indent :: s.outer
      tokens := s.tokens.insertIdx position t }
  else s

def closeBlocksFrom (column : Int) : Int → List Int → Int × List Int × Nat
  | indent, [] => (indent, [], 0)
  | indent, next :: outer =>
    if column < indent then
      let (indent, outer, count) := closeBlocksFrom column next outer
      (indent, outer, count + 1)
    else (indent, next :: outer, 0)

def closeBlocks (s : Scan) (column : Int) : Scan :=
  if s.inFlow then s
  else
    let (indent, outer, count) := closeBlocksFrom column s.indent s.outer
    { s with indent, outer, tokens := s.tokens ++ List.replicate count .blockEnd }

/-- Moves over blanks, comments and line breaks, and over a byte order mark in front of a line. A tab
may not stand where a key could start. -/
def skipToToken : Nat → Scan → Scan
  | 0, s => s
  | fuel + 1, s =>
    let c := if s.cursor.column = 0 && s.cursor.has 0 '\uFEFF' then s.cursor.advance 1 else s.cursor
    let c := c.skipWhile fun x => x = ' ' || ((s.inFlow || !s.keyAllowed) && x = '\t')
    let c := if c.has 0 '#' then c.skipLine else c
    if c.breakAt 0 then
      skipToToken fuel { s with cursor := c.skipBreak, keyAllowed := s.keyAllowed || !s.inFlow }
    else { s with cursor := c }

/-! ## Directives and names -/

def readVersionNumber (c : Cursor) : Option (Nat × Cursor) :=
  let (digits, next) := c.take Char.isDigit
  if digits.isEmpty || digits.length > 9 then none else some (Json.digitsValue digits, next)

def isTagChar (full : Bool) (c : Char) : Bool :=
  isName c || ";/?:@&=+$.!~*'()".toList.contains c || (full && ",[]".toList.contains c)

def escapedBytes : Nat → List Char → Option (List UInt8)
  | 0, _ => some []
  | n + 1, '%' :: a :: b :: rest => do
    let value ← hexNumber? [a, b]
    let bytes ← escapedBytes n rest
    some (value.toUInt8 :: bytes)
  | _ + 1, _ => none

def byteCount? (b : UInt8) : Option Nat :=
  if b.toNat < 0x80 then some 1 else (Text.Lead.ofByte? b.toNat).map fun lead => lead.following + 1

def readTagEscape (c : Cursor) : Option (Char × Cursor) := do
  let first ← escapedBytes 1 c.rest
  let count ← first.head?.bind byteCount?
  let bytes ← escapedBytes count c.rest
  match Text.decode? bytes with
  | some [x] => some (x, c.advance (3 * count))
  | _ => none

def readTagText (full : Bool) : Nat → Cursor → Option (List Char × Cursor)
  | 0, c => some ([], c)
  | fuel + 1, c =>
    match c.at? 0 with
    | none => some ([], c)
    | some x =>
      if x = '%' then
        match readTagEscape c with
        | none => none
        | some (x, next) => (readTagText full fuel next).map fun (text, c) => (x :: text, c)
      else if isTagChar full x then
        (readTagText full fuel (c.advance 1)).map fun (text, c) => (x :: text, c)
      else some ([], c)

def readHandle (c : Cursor) : Option (List Char × Cursor) :=
  if c.has 0 '!' then
    let (name, next) := (c.advance 1).take isName
    if next.has 0 '!' then some ('!' :: name ++ ['!'], next.advance 1) else some ('!' :: name, next)
  else none

def readDirective (c : Cursor) : Option (Token × Cursor) := do
  let (name, c) := (c.advance 1).take isName
  if !c.blankAt 0 then none
  let (token, c) ←
    if name = "YAML".toList then do
      let (major, c) ← readVersionNumber (c.skipWhile isSpace)
      if !c.has 0 '.' then none
      let (minor, c) ← readVersionNumber (c.advance 1)
      some (Token.version major minor, c)
    else if name = "TAG".toList then do
      let (handle, c) ← readHandle (c.skipWhile isSpace)
      if handle.getLast? ≠ some '!' then none
      if !c.spaceAt 0 then none
      let (expansion, c) ← readTagText true (c.rest.length + 1) (c.skipWhile isSpace)
      if expansion.isEmpty || !c.blankAt 0 then none
      some (Token.tagHandle (String.ofList handle) (String.ofList expansion), c)
    else none
  let c := c.skipWhile isSpace
  let c := if c.has 0 '#' then c.skipLine else c
  if !c.atEnd && !c.breakAt 0 then none
  some (token, c.skipBreak)

def readAnchorName (c : Cursor) : Option (String × Cursor) :=
  let (name, next) := (c.advance 1).take isName
  if name.isEmpty then none
  else if next.blankAt 0 || (next.at? 0).any fun x => "?:,]\x7d%@\x60".toList.contains x then
    some (String.ofList name, next)
  else none

def readTag (inFlow : Bool) (c : Cursor) : Option (Token × Cursor) := do
  let (token, c) ←
    if c.has 1 '<' then do
      let (text, c) ← readTagText true (c.rest.length + 1) (c.advance 2)
      if text.isEmpty || !c.has 0 '>' then none
      some (Token.tag "" (String.ofList text), c.advance 1)
    else do
      let (handle, c) ← readHandle c
      let (suffix, c) ← readTagText false (c.rest.length + 1) c
      if handle.length > 1 && handle.getLast? = some '!' then
        if suffix.isEmpty then none
        some (Token.tag (String.ofList handle) (String.ofList suffix), c)
      else
        let whole := handle.drop 1 ++ suffix
        if whole.isEmpty then some (Token.tag "" "!", c)
        else some (Token.tag "!" (String.ofList whole), c)
  if c.blankAt 0 || (inFlow && c.has 0 ',') then some (token, c) else none

/-! ## One token -/

/-- Reads something that may be a key: it becomes a candidate, and no other key starts right after
it. -/
def keyed (s : Scan) (read : Cursor → Option (Token × Cursor)) : Option Scan := do
  let s ← s.saveCandidate
  let (t, c) ← read s.cursor
  some { s.push t with cursor := c, keyAllowed := false }

/-- Reads a sign between documents; it closes every block. -/
def documentMark (s : Scan) (t : Token) : Option Scan := do
  let s ← (s.closeBlocks (-1)).dropCandidate
  some { s.pushOver t 3 with keyAllowed := false }

def directive (s : Scan) : Option Scan := do
  let s ← (s.closeBlocks (-1)).dropCandidate
  let (t, c) ← readDirective s.cursor
  some { s.push t with cursor := c, keyAllowed := false }

def finish (s : Scan) : Option Scan := do
  let s ← (s.closeBlocks (-1)).dropCandidate
  some { s.push .streamEnd with keyAllowed := false }

def openFlow (s : Scan) (t : Token) : Option Scan := do
  let s ← s.saveCandidate
  some { s.pushOver t 1 with candidates := none :: s.candidates, keyAllowed := true }

def closeFlow (s : Scan) (t : Token) : Option Scan := do
  let s ← s.dropCandidate
  let candidates := if s.inFlow then s.candidates.tail else s.candidates
  some { s.pushOver t 1 with candidates, keyAllowed := false }

def flowEntry (s : Scan) : Option Scan := do
  let s ← s.dropCandidate
  some { s.pushOver .flowEntry 1 with keyAllowed := true }

def blockEntry (s : Scan) : Option Scan := do
  if !s.inFlow && !s.keyAllowed then none
  let s := s.openBlock s.cursor.column s.tokens.length .blockSequenceStart
  let s ← s.dropCandidate
  some { s.pushOver .blockEntry 1 with keyAllowed := true }

def explicitKey (s : Scan) : Option Scan := do
  if !s.inFlow && !s.keyAllowed then none
  let s := s.openBlock s.cursor.column s.tokens.length .blockMappingStart
  let s ← s.dropCandidate
  some { s.pushOver .key 1 with keyAllowed := !s.inFlow }

/-- Reads the colon of a value. The candidate, if there is one, was a key. -/
def value (s : Scan) : Option Scan :=
  match s.candidate with
  | some k =>
    let s := { s with tokens := s.tokens.insertIdx k.position .key }
    let s := (s.openBlock k.column k.position .blockMappingStart).setCandidate none
    some { s.pushOver .value 1 with keyAllowed := false }
  | none =>
    if !s.inFlow && !s.keyAllowed then none
    else
      let s := s.openBlock s.cursor.column s.tokens.length .blockMappingStart
      some { s.pushOver .value 1 with keyAllowed := !s.inFlow }

def blockScalar (s : Scan) (isLiteral : Bool) : Option Scan := do
  let s ← s.dropCandidate
  let (text, c) ← readBlock isLiteral s.indent (s.cursor.advance 1)
  let style := if isLiteral then Style.literal else Style.folded
  some { s.push (.scalar style (String.ofList text)) with cursor := c, keyAllowed := true }

def quotedScalar (s : Scan) (single : Bool) : Option Scan :=
  s.keyed fun c =>
    (readQuoted single (c.rest.length + 1) [] (c.advance 1)).map fun (text, c) =>
      (.scalar (if single then .singleQuoted else .doubleQuoted) (String.ofList text), c)

/-- Reads a plain scalar. A key may start after it if it ended at a line break. -/
def plainScalar (s : Scan) : Option Scan := do
  let s ← s.saveCandidate
  let c := s.cursor
  let (text, broken, c) ← readPlain s.inFlow (s.indent + 1).toNat (c.rest.length + 1) [] {} c
  some { s.push (.scalar .plain (String.ofList text)) with cursor := c, keyAllowed := broken }

def startsPlain (s : Scan) : Bool :=
  let c := s.cursor
  let isIndicator := (c.at? 0).any fun x => "-?:,[]\x7b\x7d#&*!|>'\"%@\x60".toList.contains x
  (!c.blankAt 0 && !isIndicator) || (c.has 0 '-' && !c.spaceAt 1) ||
    (!s.inFlow && (c.has 0 '?' || c.has 0 ':') && !c.blankAt 1)

def token (s : Scan) : Option Scan :=
  let c := s.cursor
  if c.atEnd then s.finish
  else if c.column = 0 && c.has 0 '%' then s.directive
  else if c.atMarks '-' then s.documentMark .documentStart
  else if c.atMarks '.' then s.documentMark .documentEnd
  else if c.has 0 '[' then s.openFlow .flowSequenceStart
  else if c.has 0 '\x7b' then s.openFlow .flowMappingStart
  else if c.has 0 ']' then s.closeFlow .flowSequenceEnd
  else if c.has 0 '\x7d' then s.closeFlow .flowMappingEnd
  else if c.has 0 ',' then s.flowEntry
  else if c.has 0 '-' && c.blankAt 1 then s.blockEntry
  else if c.has 0 '?' && (s.inFlow || c.blankAt 1) then s.explicitKey
  else if c.has 0 ':' && (s.inFlow || c.blankAt 1) then s.value
  else if c.has 0 '*' then
    s.keyed fun c => (readAnchorName c).map fun (name, c) => (.alias name, c)
  else if c.has 0 '&' then
    s.keyed fun c => (readAnchorName c).map fun (name, c) => (.anchor name, c)
  else if c.has 0 '!' then s.keyed (readTag s.inFlow)
  else if c.has 0 '|' && !s.inFlow then s.blockScalar true
  else if c.has 0 '>' && !s.inFlow then s.blockScalar false
  else if c.has 0 '\'' then s.quotedScalar true
  else if c.has 0 '\"' then s.quotedScalar false
  else if s.startsPlain then s.plainScalar
  else none

def tokensFrom : Nat → Scan → Option (List Token)
  | 0, _ => none
  | fuel + 1, s =>
    match (skipToToken (s.cursor.rest.length + 1) s).dropStale with
    | none => none
    | some s =>
      let s := s.closeBlocks s.cursor.column
      match s.token with
      | none => none
      | some next => if s.cursor.atEnd then some next.tokens else tokensFrom fuel next

end Scan

def Token.ofText? (text : List Char) : Option (List Token) :=
  if text.all isAllowed then Scan.tokensFrom (text.length + 2) { cursor := { rest := text } }
  else none

end Conformance.Yaml

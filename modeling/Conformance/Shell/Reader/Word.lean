import Conformance.Shell.Reader.Source

/-! # Reading words

A word ends at a blank, a line end or an operator outside quotes. Quotes, braces and sums are levels
that a word goes into and comes out of; each level has its own use of characters.
-/

namespace Conformance.Shell

structure Nested where
  list : Reading (Option Command)
  token : Reading Token
  documents : Reading Unit

inductive Usage where
  | unquoted | doubleQuoted | singleQuoted | sum
deriving DecidableEq, Repr

structure Level where
  usage : Usage
  inQuotes : Bool := false
  innerQuotes : Bool := false
  openedByBraces : Bool := false
  /-- How many braces are open, and how many of them inside double quotes. -/
  braces : Nat := 0
  quotedBraces : Nat := 0
  parens : Nat := 0
deriving DecidableEq, Repr

/-- What a part of a word was opened by. -/
inductive Opening where
  | braces (name : List Char) (form : ParameterForm)
  | sum
deriving DecidableEq, Repr

/-- A word that is being read: levels from the inside out, open parts with what stands before them,
and the parts of the innermost one, newest first. -/
structure Draft where
  level : Level
  outer : List Level := []
  openings : List (Opening × List Part) := []
  parts : List Part := []
  quoted : Bool := false

namespace Draft

def add (d : Draft) (part : Part) : Draft := { d with parts := part :: d.parts }

def close (d : Draft) : Draft :=
  match d.openings with
  | [] => d
  | (.braces name form, before) :: openings =>
    { d with openings, parts := .parameter name form d.parts.reverse :: before }
  | (.sum, before) :: openings =>
    { d with openings, parts := .number d.parts.reverse :: before }

def opened (d : Draft) (opening : Opening) : Draft :=
  { d with openings := (opening, d.parts) :: d.openings, parts := [] }

def push (d : Draft) (level : Level) : Draft := { d with level, outer := d.level :: d.outer }

def pop (d : Draft) : Draft :=
  match d.outer with
  | [] => d
  | level :: outer => { d with level, outer }

/-- Opens braces. A level of its own is needed if characters are used in another way inside. -/
def openBraces (d : Draft) (name : List Char) (form : ParameterForm) (usage : Usage) : Draft :=
  let usage := if usage = .sum then .doubleQuoted else usage
  let d := d.opened (.braces name form)
  let d := if usage ≠ d.level.usage || d.level.innerQuotes then
      d.push { usage, openedByBraces := true, inQuotes := usage ≠ .unquoted }
    else d
  { d with level := { d.level with
      braces := d.level.braces + 1
      quotedBraces := d.level.quotedBraces + if d.level.inQuotes then 1 else 0 } }

def closeBraces (d : Draft) : Draft :=
  let braces := d.level.braces - 1
  let d := { d with level := { d.level with braces } }
  let d := if braces = 0 && d.level.openedByBraces then d.pop
    else { d with level := { d.level with quotedBraces := d.level.quotedBraces - 1 } }
  d.close

end Draft

inductive Effect where
  | stands | escapes | newline | backslash | singleQuote | doubleQuote | endsQuote | backquote
  | dollar | closesBrace | opensParen | closesParen | ends
deriving DecidableEq, Repr

def effectOf (usage : Usage) (c : Char) : Effect :=
  if '\x81' ≤ c && c ≤ '\x88' then .escapes
  else match usage with
  | .unquoted =>
    if c = '\n' then .newline
    else if c = '\\' then .backslash
    else if c = '\'' then .singleQuote
    else if c = '\"' then .doubleQuote
    else if c = '\x60' then .backquote
    else if c = '$' then .dollar
    else if c = '\x7d' then .closesBrace
    else if "<>();&| \t".toList.contains c then .ends
    else .stands
  | .doubleQuoted =>
    if c = '\n' then .newline
    else if c = '\\' then .backslash
    else if c = '\"' then .endsQuote
    else if c = '\x60' then .backquote
    else if c = '$' then .dollar
    else if c = '\x7d' then .closesBrace
    else if "!*?[=~:/-]".toList.contains c then .escapes
    else .stands
  | .singleQuoted =>
    if c = '\n' then .newline
    else if c = '\'' then .endsQuote
    else if "!*?[=~:/-]\\".toList.contains c then .escapes
    else .stands
  | .sum =>
    if c = '\n' then .newline
    else if c = '\\' then .backslash
    else if c = '\x60' then .backquote
    else if c = '$' then .dollar
    else if c = '\x7d' then .closesBrace
    else if c = '(' then .opensParen
    else if c = ')' then .closesParen
    else .stands

/-- What the words of a text are ended by. -/
structure Ends where
  line : Option (List Char) := none
  stripsTabs : Bool := false
deriving DecidableEq, Repr

/-! ## Expansions -/

def manyChars : Nat := 1000000000000

structure Look where
  char : Option Char
  before : Reader
  after : Reader

def look (r : Reader) : Except Stop Look :=
  match r.joined Reader.manyLines with
  | .error e => .error e
  | .ok r => r.next.map fun (c, after) => ⟨c, r, after⟩

def runOf (p : Char → Bool) : Nat → List Char → Look → Except Stop (List Char × Look)
  | 0, taken, l => .ok (taken.reverse, l)
  | fuel + 1, taken, l =>
    match l.char with
    | none => .ok (taken.reverse, l)
    | some c =>
      if p c then
        match look l.after with
        | .ok l => runOf p fuel (c :: taken) l
        | .error e => .error e
      else .ok (taken.reverse, l)

/-- What the start of an expansion says: a parameter and its form, and whether a word up to a brace
follows, with the use of characters in it. -/
structure Start where
  name : List Char
  form : ParameterForm
  opens : Bool := true
  usage : Usage
  rest : Reader

def badStart (usage : Usage) (l : Look) : Start := ⟨[], .invalid, true, usage, l.before⟩

def readForm (usage : Usage) (name : List Char) (l : Look) : Except Stop Start := do
  let orEmpty := l.char = some ':'
  let l ← if orEmpty then look l.after else pure l
  let start (form : ParameterForm) : Except Stop Start := .ok ⟨name, form, true, usage, l.after⟩
  match l.char with
  | some '\x7d' => return ⟨name, .plain, orEmpty, usage, l.after⟩
  | some '-' => start (.useDefault orEmpty)
  | some '+' => start (.useAlternative orEmpty)
  | some '?' => start (.complain orEmpty)
  | some '=' => start (.assign orEmpty)
  | some c =>
    if (c = '%' || c = '#') && !orEmpty then
      let second ← look l.after
      let longest := second.char = some c
      return ⟨name, .cut (c = '#') longest, true, .unquoted,
        if longest then second.after else second.before⟩
    else start .invalid
  | none => start .invalid

def readName (l : Look) : Except Stop (List Char × Look) :=
  if l.char.any startsName then runOf continuesName manyChars [] l
  else runOf Char.isDigit manyChars [] l

def readBraces (usage : Usage) (l : Look) : Except Stop Start := do
  match l.char with
  | none => return badStart usage l
  | some c =>
    if startsName c || c.isDigit then
      let (name, l) ← readName l
      readForm usage name l
    else if c = '\x7d' then return badStart usage l
    else
      let second ← look l.after
      if c ≠ '#' then
        if isSpecial c then readForm usage [c] second else return badStart usage second
      else if second.char.any fun d => d = '_' || d.isAlphanum then
        let (name, l) ← readName second
        if l.char = some '\x7d' then return ⟨name, .length, true, usage, l.before⟩
        else return badStart usage l
      else
        let third ← look second.after
        if second.char = some '\x7d' || third.char ≠ some '\x7d' then
          readForm usage ['#'] second
        else match second.char with
          | some d =>
            if isSpecial d then return ⟨[d], .length, true, usage, third.before⟩
            else return badStart usage third
          | none => return badStart usage third

def readPlain (usage : Usage) (l : Look) : Except Stop Start := do
  match l.char with
  | some c =>
    if startsName c then
      let (name, l) ← runOf continuesName manyChars [] l
      return ⟨name, .plain, false, usage, l.before⟩
    else return ⟨[c], .plain, false, usage, l.after⟩
  | none => return badStart usage l

def backquoted (inQuotes : Bool) : Nat → List Char → Reader → Outcome (List Char)
  | 0, _, r => r.refuse .openBackquotes
  | fuel + 1, taken, r =>
    match r.nextJoined with
    | .error e => .error e
    | .ok (none, r) => r.refuse .openBackquotes
    | .ok (some '\x60', r) => .ok (taken.reverse, r)
    | .ok (some '\\', r) =>
      match r.next with
      | .error e => .error e
      | .ok (none, r) => r.refuse .openBackquotes
      | .ok (some c, r) =>
        let isPlain := "$\x60\\".toList.contains c || (inQuotes && c = '\"')
        backquoted inQuotes fuel (if isPlain then c :: taken else c :: '\\' :: taken) r
    | .ok (some c, r) =>
      let r := if c = '\n' then { r with line := r.line + 1 } else r
      backquoted inQuotes fuel (c :: taken) r

/-- A reader for the commands inside a word, and what it came to. -/
def readInside (n : Nested) (inner : Reader) (closes : Bool) :
    Except Stop (Option Command × Reader) := do
  let (body, inner) ← n.list.run { inner with
    checks := {}, pushedBack := false, awaited := [], documents := [] }
  let inner ← if closes then do
      let (token, inner) ← n.token.run inner
      if token = .closeParen then pure inner
      else inner.refuse (.unexpected token (some .closeParen))
    else pure inner
  let ((), filled) ← n.documents.run (if closes then
    { inner with rest := [], complete := true, replacements := [] } else inner)
  return (body.map fun body => body.withDocuments filled.documents,
    { inner with nextDocument := filled.nextDocument })

def readBackquotes (n : Nested) (inQuotes : Bool) (r : Reader) : Except Stop (Part × Reader) := do
  let (text, r) ← backquoted inQuotes manyChars [] r
  let (body, inner) ← readInside n
    { rest := text, complete := true, aliases := r.aliases, nextDocument := r.nextDocument } false
  return (.output body, { r with nextDocument := inner.nextDocument })

def readParens (n : Nested) (r : Reader) : Except Stop (Part × Reader) := do
  let (body, inner) ← readInside n r true
  return (.output body, { inner with
    checks := r.checks, awaited := r.awaited, documents := r.documents, pushedBack := false })

def readDollar (n : Nested) (d : Draft) (r : Reader) : Except Stop (Draft × Reader) := do
  let l ← look r
  let isStart : Bool := !r.checks.delimiter && l.char.any fun c =>
    c = '(' || c = '\x7b' || startsName c || isSpecial c
  if !isStart then return (d.add (.plain '$'), l.before)
  else if l.char = some '(' then
    let second ← look l.after
    if second.char = some '(' then
      return ((d.opened .sum).push { usage := .sum, inQuotes := true }, second.after)
    else
      let (part, r) ← readParens n second.before
      return (d.add part, r)
  else
    let start ← if l.char = some '\x7b' then
        do readBraces d.level.usage (← look l.after)
      else readPlain d.level.usage l
    if start.opens then
      return (d.openBraces start.name start.form start.usage, start.rest)
    else return (d.add (.parameter start.name start.form []), start.rest)

/-! ## Words -/

/-- The rest of a reader after the given characters, if it goes on with them and the line ends
then. -/
def afterLine? : List Char → Option Char → Reader → Except Stop (Option Reader)
  | [], c, r => .ok (if c = some '\n' then some { r with line := r.line + 1 }
      else if c.isNone then some r else none)
  | d :: mark, c, r =>
    if c = some d then
      match r.next with
      | .ok (c, r) => afterLine? mark c r
      | .error e => .error e
    else .ok none

def skipTabs : Nat → Option Char → Reader → Outcome (Option Char)
  | 0, c, r => .ok (c, r)
  | fuel + 1, c, r =>
    if c = some '\t' then
      match r.next with
      | .ok (c, r) => skipTabs fuel c r
      | .error e => .error e
    else .ok (c, r)

/-- The character at the start of a line; it is the end if the line ends the text. -/
def lineStart (e : Ends) (l : Look) : Except Stop Look :=
  match e.line with
  | none => .ok l
  | some mark => do
    let (char, after) ← if e.stripsTabs then skipTabs manyChars l.char l.after
      else pure (l.char, l.after)
    match ← afterLine? mark char after with
    | some r => return ⟨none, r, r⟩
    | none => return ⟨char, l.before, after⟩

def nextOn (d : Draft) (r : Reader) : Except Stop Look :=
  if d.level.usage = .singleQuoted then r.next.map fun (c, after) => ⟨c, r, after⟩ else look r

def toggled (e : Ends) (isDouble : Bool) (d : Draft) : Draft :=
  let d := if isDouble && 0 < d.level.braces then
      { d with level := { d.level with innerQuotes := !d.level.innerQuotes } }
    else d
  if e.line.isNone then d.add .quoteMark else d

def escaped (e : Ends) (d : Draft) (c : Char) : Draft :=
  let inBraces := 0 < d.level.braces
  let keeps := d.level.inQuotes && c ≠ '\\' && c ≠ '\x60' && c ≠ '$' &&
    (c ≠ '\"' || (e.line.isSome && !inBraces)) && (c ≠ '\x7d' || !inBraces)
  let d := if keeps then d.add (.escaped '\\') else d
  { d.add (.escaped c) with quoted := true }

def readParts (n : Nested) (e : Ends) : Nat → Look → Draft → Except Stop (Draft × Look)
  | 0, l, d => .ok (d, l)
  | fuel + 1, l, d =>
    match l.char with
    | none => .ok (d, l)
    | some c =>
      let r := l.after
      let goOn (d : Draft) (r : Reader) : Except Stop (Draft × Look) :=
        match nextOn d r with
        | .ok l => readParts n e fuel l d
        | .error e => .error e
      match effectOf d.level.usage c with
      | .stands => goOn (d.add (.plain c)) r
      | .escapes =>
        let stands := e.line.isSome && !d.level.inQuotes && d.level.braces = 0
        goOn (d.add (if stands then .plain c else .escaped c)) r
      | .newline =>
        if d.level.usage = .unquoted && d.level.braces = 0 then .ok (d, l)
        else
          let d := d.add (.plain c)
          match nextOn d { r with line := r.line + 1 } with
          | .error e => .error e
          | .ok l =>
            match lineStart e l with
            | .ok l => readParts n e fuel l d
            | .error e => .error e
      | .backslash =>
        match r.next with
        | .error e => .error e
        | .ok (none, r) => goOn (d.add (.escaped '\\')) r
        | .ok (some c, r) => goOn (escaped e d c) r
      | .singleQuote =>
        goOn (toggled e false { d with level := { d.level with usage := .singleQuoted } }) r
      | .doubleQuote =>
        goOn (toggled e true
          { d with level := { d.level with usage := .doubleQuoted, inQuotes := true } }) r
      | .endsQuote =>
        if e.line.isSome && d.level.braces = 0 then goOn (d.add (.plain c)) r
        else
          let d := if d.level.quotedBraces = 0 then
              { d with level := { d.level with usage := .unquoted, inQuotes := false } }
            else d
          goOn (toggled e (c = '\"') { d with quoted := true }) r
      | .dollar =>
        match readDollar n d r with
        | .ok (d, r) => goOn d r
        | .error e => .error e
      | .closesBrace =>
        if !d.level.innerQuotes && 0 < d.level.braces then goOn d.closeBraces r
        else goOn (d.add (.plain c)) r
      | .opensParen =>
        goOn { d.add (.plain c) with level := { d.level with parens := d.level.parens + 1 } } r
      | .closesParen =>
        if 0 < d.level.parens then
          goOn { d.add (.plain c) with level := { d.level with parens := d.level.parens - 1 } } r
        else
          match look r with
          | .error e => .error e
          | .ok l =>
            if l.char = some ')' then goOn d.pop.close l.after
            else goOn (d.add (.plain c)) l.before
      | .backquote =>
        if r.checks.delimiter then goOn (d.add (.plain c)) r
        else match readBackquotes n d.level.inQuotes r with
          | .ok (part, r) => goOn (d.add part) r
          | .error e => .error e
      | .ends =>
        if d.level.braces = 0 then .ok (d, l) else goOn (d.add (.plain c)) r

def readWordFrom (n : Nested) (e : Ends) (usage : Usage) (l : Look) :
    Except Stop (Draft × Look) := do
  let l ← lineStart e l
  let start : Draft := { level := { usage, inQuotes := usage = .doubleQuoted } }
  let (d, l) ← readParts n e manyChars l start
  if d.level.usage = .sum then l.after.refuse .openSum
  else if d.level.usage ≠ .unquoted && e.line.isNone then l.after.refuse .openQuotes
  else if 0 < d.level.braces then l.after.refuse .openBraces
  else return (d, l)

/-! ## Tokens -/

/-- The redirection whose first sign is `c`, with the descriptor that stands before it. -/
def readRedirection (c : Char) (descriptor : Option Nat) (r : Reader) :
    Except Stop (Token × Reader) := do
  let l ← look r
  let make (standard : Nat) (kind : RedirectionKind) (rest : Reader) :
      Except Stop (Token × Reader) :=
    .ok (.redirection, { rest with redirection := .mk (descriptor.getD standard) kind [] 0 })
  if c = '>' then
    match l.char with
    | some '>' => make 1 .append l.after
    | some '|' => make 1 .clobber l.after
    | some '&' => make 1 .copy l.after
    | _ => make 1 .output l.before
  else
    match l.char with
    | some '<' =>
      let second ← look l.after
      let strips := second.char = some '-'
      make 0 .text { (if strips then second.after else second.before) with stripsTabs := strips }
    | some '&' => make 0 .copy l.after
    | some '>' => make 0 .both l.after
    | _ => make 0 .input l.before

/-- The descriptor that a word before a redirection is; the word may be empty. -/
def descriptorOf? : Word → Option (Option Nat)
  | [] => some none
  | [.plain d] => if d.isDigit then some (some (d.toNat - 48)) else none
  | _ => none

def readWordToken (n : Nested) (l : Look) : Except Stop (Token × Reader) := do
  let (d, l) ← readWordFrom n {} .unquoted l
  let parts := d.parts.reverse
  match l.char, descriptorOf? parts with
  | some sign, some descriptor =>
    if (sign = '<' || sign = '>') && !d.quoted then readRedirection sign descriptor l.after
    else return (.word, { l.before with word := parts, quoted := d.quoted })
  | _, _ => return (.word, { l.before with word := parts, quoted := d.quoted })

def skipComment : Nat → Reader → Except Stop Reader
  | 0, r => .ok r
  | fuel + 1, r =>
    match r.next with
    | .error e => .error e
    | .ok (c, after) => if c.isNone || c = some '\n' then .ok r else skipComment fuel after

def readToken (n : Nested) : Nat → Reader → Except Stop (Token × Reader)
  | 0, r => .ok (.endOfFile, r)
  | fuel + 1, r =>
    match look r with
    | .error e => .error e
    | .ok l =>
      let double (c : Char) (two one : Token) : Except Stop (Token × Reader) :=
        (look l.after).map fun second =>
          if second.char = some c then (two, second.after) else (one, second.before)
      match l.char with
      | none => .ok (.endOfFile, l.after)
      | some ' ' | some '\t' => readToken n fuel l.after
      | some '#' =>
        match skipComment manyChars l.after with
        | .ok r => readToken n fuel r
        | .error e => .error e
      | some '\n' => .ok (.newline, { l.after with line := l.after.line + 1 })
      | some '&' => double '&' .andIf .ampersand
      | some '|' => double '|' .orIf .pipe
      | some ';' => double ';' .doubleSemicolon .semicolon
      | some '(' => .ok (.openParen, l.after)
      | some ')' => .ok (.closeParen, l.after)
      | _ => readWordToken n l

end Conformance.Shell

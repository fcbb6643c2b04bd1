import Conformance.Shell.Arithmetic
import Conformance.Shell.Field
import Conformance.Shell.Script

/-! # Expansion of words

Parameters, the output of commands and arithmetic are replaced by their values. What runs commands
is a parameter here.
-/

namespace Conformance.Shell

open Conformance.System

inductive Tildes where
  | nowhere
  /-- After the first equals sign, and from then on after colons. -/
  | afterEquals
  | afterColons
deriving DecidableEq, Repr

structure Purpose where
  fields : Bool := false
  pattern : Bool := false
  /-- Whether a tilde at the start stands for a directory. -/
  tilde : Bool := false
  tildes : Tildes := .nowhere
  quoted : Bool := false
  cutsText : Bool := false
deriving DecidableEq, Repr

namespace Purpose

def command : Purpose := { fields := true, tilde := true }
/-- A word that stays one, such as the target of a redirection. -/
def single : Purpose := { tilde := true }
def assignment : Purpose := { tildes := .afterEquals }
def value : Purpose := { tilde := true, tildes := .afterColons }
def matching : Purpose := { pattern := true, tilde := true }
def document : Purpose := { quoted := true }

def escapes (p : Purpose) : Bool := p.fields || p.pattern

def cutsHere (p : Purpose) : Bool := p.cutsText && !p.quoted

end Purpose

/-! ## Values -/

def isMeaningful (c : Char) : Bool := "!*?[=~:/-]\\".toList.contains c

def isReserved (c : Char) : Bool := '\x81' ≤ c && c ≤ '\x88'

def valueContent (p : Purpose) (text : String) : Content :=
  if p.escapes then
    .glyphs (text.toList.map fun c =>
      if isReserved c || (p.quoted && isMeaningful c) then .escaped c else .plain c)
  else .text text

def valueSegment (p : Purpose) (text : String) : Segment :=
  ⟨valueContent p text, if p.quoted then .nowhere else .atSeparators⟩

def allParametersText (s : Session) (isStar : Bool) (p : Purpose) : String :=
  let between : String :=
    if p.fields && p.quoted && !isStar then "\x00"
    else match s.valueOf? "IFS" with
      | none => " "
      | some separators =>
        if p.fields && !p.quoted then "\x00" else String.ofList (separators.toList.take 1)
  String.intercalate between s.parameters

def parameterText? (s : Session) (name : List Char) (p : Purpose) : Option String :=
  match name with
  | ['$'] => some (toString s.process)
  | ['?'] => some (toString s.status)
  | ['#'] => some (toString s.parameters.length)
  | ['!'] => s.lastBackground.map fun process => toString process
  | ['-'] => some s.letters
  | ['@'] => some (allParametersText s false p)
  | ['*'] => some (allParametersText s true p)
  | _ =>
    let text := String.ofList name
    match text.toNat? with
    | some 0 => some s.name
    | some n => s.parameters[n - 1]?
    | none => s.valueOf? text

def users : List (String × String) :=
  [("root", "/root"), ("daemon", "/usr/sbin"), ("bin", "/bin"), ("sys", "/dev"), ("sync", "/bin"),
    ("games", "/usr/games"), ("man", "/var/cache/man"), ("lp", "/var/spool/lpd"),
    ("mail", "/var/mail"), ("news", "/var/spool/news"), ("uucp", "/var/spool/uucp"),
    ("proxy", "/bin"), ("www-data", "/var/www"), ("backup", "/var/backups"), ("list", "/var/list"),
    ("irc", "/run/ircd"), ("_apt", "/nonexistent"), ("nobody", "/nonexistent")]

def homeOf? (s : Session) (name : String) : Option String :=
  if name.isEmpty then s.valueOf? "HOME" else (users.find? fun user => user.1 = name).map Prod.snd

def tildeName (endsAtColon : Bool) : Word → Option (List Char)
  | [] => some []
  | .plain c :: rest =>
    if c = '/' || (c = ':' && endsAtColon) then some []
    else (tildeName endsAtColon rest).map (c :: ·)
  | _ => none

/-- The directory that a word starts with a tilde for, and how many parts that takes. -/
def expandTilde (s : Session) (p : Purpose) (w : Word) : Option (Content × Nat) :=
  match w with
  | .plain '~' :: rest =>
    match tildeName (p.tildes ≠ .nowhere) rest with
    | some name =>
      (homeOf? s (String.ofList name)).map fun home =>
        (valueContent { p with quoted := true } home, name.length + 1)
    | none => none
  | _ => none

/-! ## Output of commands -/

def readAll (descriptor : Nat) : Nat → List (List UInt8) → Run (List UInt8)
  | 0, chunks => return chunks.reverse.flatten
  | fuel + 1, chunks => do
    match ← Run.call (.read descriptor 65536) with
    | .ok [] => return chunks.reverse.flatten
    | .ok bytes => readAll descriptor fuel (bytes :: chunks)
    | .error .interrupted => readAll descriptor fuel chunks
    | .error _ => return chunks.reverse.flatten

def moveDescriptor (descriptor target : Nat) : Run Unit := do
  unless descriptor = target do
    let _ ← Run.call (.duplicate descriptor target)
    Run.call (.close descriptor)

/-- The output of a command that runs as a process of its own, without the line ends that it ends
with. -/
def outputOf (run : Runner) : Option Command → Run String
  | none => return ""
  | some command => do
    let (readEnd, writeEnd) ← Run.call .pipe
    let job ← newJob
    start (finish run) job false do
      Run.call (.close readEnd)
      moveDescriptor writeEnd 1
      run command { isLast := true }
    Run.call (.close writeEnd)
    let text := (ofBytes (← readAll readEnd manyTimes [])).filter (· ≠ '\x00')
    Run.call (.close readEnd)
    let status ← awaitJob job
    modify fun s => { s with outputStatus := status }
    return String.ofList (text.reverse.dropWhile (· = '\n')).reverse

/-! ## Arithmetic -/

/-- The value of an arithmetic expression; it may assign to variables. -/
def calculate (text : String) : Run Int := do
  let s ← get
  let (result, assigned) := Arithmetic.evaluate (fun name => (s.valueOf? name).getD "") text.toList
  for (name, value) in assigned do assign name (toString value)
  match result with
  | .ok n => return n
  | .error .overflow => Run.lift (Action.crash Signal.arithmetic)
  | .error obstacle => fail (obstacle.message text)

/-! ## Words -/

def complainUnset (name : List Char) (message : String) : Run (List Segment) :=
  fail (String.ofList name ++ ": " ++ message)

def parameterSegment (s : Session) (name : List Char) (p : Purpose) (content : Content) :
    Segment :=
  let cut : Cut := if !p.quoted then .atSeparators
    else if name = ['@'] && !s.parameters.isEmpty then .betweenParameters
    else .nowhere
  ⟨content, cut⟩

def startsWithAll (w : Word) : Bool :=
  match w with
  | .parameter ['@'] .plain _ :: .quoteMark :: _ => true
  | _ => false

def keepValue (name : List Char) (p : Purpose) : Run (List Segment) := do
  let s ← get
  match parameterText? s name p with
  | some text => return [parameterSegment s name p (valueContent p text)]
  | none =>
    if s.has .unsetIsError then complainUnset name "parameter not set" else return []

def isAbsent (name : List Char) (p : Purpose) (orEmpty : Bool) : Run Bool := do
  match parameterText? (← get) name { p with pattern := false } with
  | none => return true
  | some text => return orEmpty && text.isEmpty

/-- The segments of the value of a parameter in a form. The word of the form is expanded for some
purpose if it is needed. -/
def expandParameter (p : Purpose) (name : List Char) (form : ParameterForm)
    (word : Purpose → Run (List Segment)) (isEmpty : Bool) : Run (List Segment) := do
  match form with
  | .invalid => fail "Bad substitution"
  | .plain => keepValue name p
  | .length =>
    let s ← get
    match parameterText? s name { p with pattern := false, fields := false } with
    | some text =>
      return [parameterSegment s name p (valueContent p (toString text.length))]
    | none =>
      if s.has .unsetIsError then complainUnset name "parameter not set"
      else return [parameterSegment s name p (valueContent p "0")]
  | .useDefault orEmpty =>
    if ← isAbsent name p orEmpty then word { p with tilde := true, cutsText := true }
    else keepValue name p
  | .useAlternative orEmpty =>
    if ← isAbsent name p orEmpty then return [parameterSegment (← get) name p (.glyphs [])]
    else word { p with tilde := true, cutsText := true }
  | .assign orEmpty =>
    if ← isAbsent name p orEmpty then
      let text := textOfAll (← word .single)
      setVariable (String.ofList name) (some text) {}
    keepValue name p
  | .complain orEmpty =>
    if ← isAbsent name p orEmpty then
      let text := textOfAll (← word .single)
      let usual := if orEmpty then "parameter not set or null" else "parameter not set"
      complainUnset name (if isEmpty then usual else text)
    else keepValue name p
  | .cut atFront longest =>
    let s ← get
    match parameterText? s name p with
    | none =>
      if s.has .unsetIsError then complainUnset name "parameter not set" else return []
    | some text =>
      let pattern := elements (patternOf (glyphsOf (← word .matching)))
      let rest := cut pattern atFront longest text.toList
      return [parameterSegment s name p (valueContent p (String.ofList rest))]

structure Unfolding where
  purpose : Purpose
  inQuotes : Bool := false
  passes : Nat := 0
  /-- The segments before the text that is being taken, newest first. -/
  segments : List Segment := []
  glyphs : List Glyph := []
  cut : Cut := .nowhere
deriving DecidableEq, Repr

namespace Unfolding

def here (u : Unfolding) : Purpose := { u.purpose with quoted := u.purpose.quoted || u.inQuotes }

def close (u : Unfolding) : Unfolding :=
  if u.glyphs.isEmpty then u
  else { u with segments := ⟨.glyphs u.glyphs.reverse, u.cut⟩ :: u.segments, glyphs := [] }

def take (u : Unfolding) (glyph : Glyph) (cut : Cut) : Unfolding :=
  let u := if u.cut = cut then u else { u.close with cut }
  { u with glyphs := glyph :: u.glyphs, purpose := { u.purpose with tilde := false } }

/-- Takes a character that is written plainly. After it a tilde may stand for a directory. -/
def takePlain (u : Unfolding) (c : Char) : Unfolding :=
  let tildes := u.purpose.tildes
  let isFirst := tildes = .afterEquals && c = '='
  let tilde := isFirst || (tildes ≠ .nowhere && c = ':')
  let u := u.take (.plain c) (if u.here.cutsHere then .atSeparators else .nowhere)
  if tilde then
    { u with purpose := { u.purpose with
        tilde, tildes := if isFirst then .afterColons else tildes } }
  else u

def takeEscaped (u : Unfolding) (c : Char) : Unfolding :=
  u.take (if u.purpose.escapes then .escaped c else .plain c) .nowhere

def takeMark (u : Unfolding) : Unfolding :=
  let u := { u with inQuotes := !u.inQuotes, purpose := { u.purpose with tilde := false } }
  if u.purpose.escapes then u.take .mark .nowhere else u

def takeValue (u : Unfolding) (values : List Segment) : Unfolding :=
  let u := u.close
  { u with
    segments := values.reverse ++ u.segments
    purpose := { u.purpose with tilde := false } }

end Unfolding

mutual

def expandPart (run : Runner) (p : Purpose) : Part → Run (List Segment)
  | .plain _ | .escaped _ | .quoteMark => return []
  | .parameter name form word =>
    expandParameter p name form (fun purpose => expandParts run { purpose } word) word.isEmpty
  | .output body => do return [valueSegment p (← outputOf run body)]
  | .number expression => do
    let segments ← expandParts run { purpose := {} } expression
    let n ← calculate (textOfAll segments)
    return [valueSegment p (toString n)]

def expandParts (run : Runner) : Unfolding → Word → Run (List Segment)
  | u, [] => return u.close.segments.reverse
  | u, part :: rest =>
    if 0 < u.passes then expandParts run { u with passes := u.passes - 1 } rest
    else match part with
      | .plain c =>
        if u.purpose.tilde && c = '~' then do
          match expandTilde (← get) u.purpose (part :: rest) with
          | some (content, taken) =>
            expandParts run { u.takeValue [⟨content, .nowhere⟩] with passes := taken - 1 } rest
          | none => expandParts run (u.takePlain c) rest
        else expandParts run (u.takePlain c) rest
      | .escaped c => expandParts run (u.takeEscaped c) rest
      | .quoteMark =>
        if !u.inQuotes && startsWithAll rest then do
          let values ← keepValue ['@'] { u.here with quoted := true }
          expandParts run { u.takeValue values with passes := 2 } rest
        else expandParts run u.takeMark rest
      | part => do
        let values ← expandPart run u.here part
        expandParts run (u.takeValue values) rest

end

def expandWord (run : Runner) (p : Purpose) (w : Word) : Run (List Segment) :=
  expandParts run { purpose := p } w

def expandText (run : Runner) (p : Purpose) (w : Word) : Run String := do
  return textOfAll (← expandWord run p w)

def expandPattern (run : Runner) (w : Word) : Run (List Element) := do
  return elements (patternOf (glyphsOf (← expandWord run .matching w)))

def expandFields (run : Runner) (w : Word) : Run (List String) := do
  let segments ← expandWord run .command w
  wordsOfAll (cutFields (← get).separators segments)

def expandAll (run : Runner) (words : List Word) : Run (List String) := do
  return (← words.mapM (expandFields run)).flatten

end Conformance.Shell

import Conformance.Shell.Binding
import Conformance.Shell.Pattern

/-! # Fields

An expanded word is a row of segments. Segments that come from values are cut into fields at the
separators of the shell. A field that is a pattern is replaced by the paths that it fits.
-/

namespace Conformance.Shell

open Conformance.System

inductive Cut where
  | nowhere
  | atSeparators
  | betweenParameters
deriving DecidableEq, Repr

inductive Content where
  | glyphs (glyphs : List Glyph)
  | text (text : String)
deriving DecidableEq, Repr

structure Segment where
  content : Content
  cut : Cut := .nowhere
deriving DecidableEq, Repr

namespace Segment

def glyphs (s : Segment) : List Glyph :=
  match s.content with
  | .glyphs glyphs => glyphs
  | .text text => text.toList.map .plain

def text (s : Segment) : String :=
  match s.content with
  | .glyphs glyphs => String.ofList (textOf glyphs)
  | .text text => text

end Segment

abbrev Field := List Glyph

def glyphsOf (segments : List Segment) : List Glyph := segments.flatMap Segment.glyphs

def textOfAll (segments : List Segment) : String := String.join (segments.map Segment.text)

/-! ## Cutting -/

/-- White space between fields. Zero bytes count as such. -/
def isSpacing (c : Char) : Bool := c = ' ' || c = '\t' || c = '\n' || c = '\x00'

def Glyph.char? : Glyph → Option Char
  | .plain c | .escaped c => some c
  | .mark => none

def separates (separators : List Char) (g : Glyph) : Bool :=
  g.char?.any fun c => c = '\x00' || separators.contains c

def isSpace (separators : List Char) (g : Glyph) : Bool :=
  separates separators g && g.char?.any isSpacing

/-- The glyphs after the end of a field, without separators that belong to that end: white space, and
one other separator if the end was white space. -/
def afterEnd (separators : List Char) : (afterSpace : Bool) → List Glyph → List Glyph
  | _, [] => []
  | afterSpace, g :: rest =>
    if !separates separators g then g :: rest
    else if isSpace separators g then afterEnd separators afterSpace rest
    else if afterSpace then afterEnd separators false rest
    else g :: rest

/-- What has been cut: the field begun and the fields before it, newest first. -/
structure Cutting where
  current : List Glyph := []
  fields : List Field := []
  last : Cut := .nowhere

namespace Cutting

def close (c : Cutting) : Cutting :=
  { c with current := [], fields := c.current.reverse :: c.fields }

/-- Cuts glyphs at separators. White space in front of a field is passed over, unless parameters were
cut before. -/
def takeText (separators : List Char) (afterParameters : Bool) : Nat → List Glyph → Cutting → Cutting
  | 0, _, c => c
  | _, [], c => c
  | fuel + 1, g :: rest, c =>
    if !separates separators g then
      takeText separators afterParameters fuel rest { c with current := g :: c.current }
    else
      let afterSpace := !afterParameters && isSpace separators g
      if c.current.isEmpty && afterSpace then
        takeText separators afterParameters fuel rest c
      else takeText separators afterParameters fuel (afterEnd separators afterSpace rest) c.close

def takeParameters : List Glyph → Cutting → Cutting
  | [], c => c
  | g :: rest, c =>
    if g = .plain '\x00' then takeParameters rest c.close
    else takeParameters rest { c with current := g :: c.current }

def take (separators : List Char) (c : Cutting) (segment : Segment) : Cutting :=
  match segment.cut with
  | .nowhere => { c with current := segment.glyphs.reverse ++ c.current }
  | .betweenParameters =>
    { takeParameters segment.glyphs c with last := .betweenParameters }
  | .atSeparators =>
    let afterParameters := c.last = .betweenParameters
    { takeText separators afterParameters (segment.glyphs.length + 1) segment.glyphs c with
      last := .atSeparators }

end Cutting

def cutFields (separators : List Char) (segments : List Segment) : List Field :=
  let c := segments.foldl (Cutting.take separators) {}
  let c := if c.last = .betweenParameters || !c.current.isEmpty then c.close else c
  c.fields.reverse

/-! ## Paths -/

def closesBracket : Nat → List Char → Bool
  | 0, _ => false
  | fuel + 1, text =>
    match text with
    | '\\' :: _ :: c :: rest => c = ']' || closesBracket fuel (c :: rest)
    | '\\' :: _ => false
    | _ :: c :: rest => c = ']' || closesBracket fuel (c :: rest)
    | _ => false

def hasPattern : List Char → Bool
  | [] => false
  | '\\' :: _ :: rest => hasPattern rest
  | '*' :: _ | '?' :: _ => true
  | '[' :: rest =>
    let body := if rest.head? = some '!' then rest.drop 1 else rest
    closesBracket (body.length + 1) body || hasPattern rest
  | _ :: rest => hasPattern rest

def pathParts : List Char → List (List Char)
  | [] => [[]]
  | '/' :: rest => [] :: pathParts rest
  | '\\' :: '/' :: rest => [] :: pathParts rest
  | '\\' :: c :: rest =>
    match pathParts rest with
    | part :: parts => ('\\' :: c :: part) :: parts
    | [] => [['\\', c]]
  | c :: rest =>
    match pathParts rest with
    | part :: parts => (c :: part) :: parts
    | [] => [[c]]

/-- A pattern without the backslashes before what stands for itself. -/
def unescaped : List Char → List Char
  | [] => []
  | '\\' :: c :: rest => c :: unescaped rest
  | c :: rest => c :: unescaped rest

/-- The names in a directory that fit a part of a pattern. A name that starts with a dot fits only a
part that does too. -/
def namesFitting (names : List String) (part : List Char) : List String :=
  let first := if part.head? = some '\\' then part.drop 1 else part
  let showsHidden := first.head? = some '.'
  let pattern := elements part
  ("." :: ".." :: names).filter fun name =>
    (showsHidden || name.toList.head? ≠ some '.') && fits pattern name.toList

/-- The paths that fit the parts of a pattern, each made longer from `path`. -/
def pathsFitting : Nat → (path : String) → (found : Bool) → List (List Char) → Run (List String)
  | 0, _, _, _ => return []
  | fuel + 1, path, found, parts => do
    let plain := parts.takeWhile fun part => !hasPattern part
    let names := plain.map fun part => String.ofList (unescaped part)
    match parts.drop plain.length with
    | [] =>
      if !found then return []
      else
        let path := path ++ String.intercalate "/" names
        match ← Run.call (.inspect path false) with
        | .ok _ => return [path]
        | .error _ => return []
    | part :: rest =>
      let path := path ++ String.join (names.map (· ++ "/"))
      match ← Run.call (.list (if path.isEmpty then "." else path)) with
      | .error _ => return []
      | .ok names =>
        let fitting := namesFitting names part
        if rest.isEmpty then return fitting.map (path ++ ·)
        else
          let found ← fitting.mapM fun name => pathsFitting fuel (path ++ name ++ "/") true rest
          return found.flatten

def maybePattern (text : List Char) : Bool := text.any fun c => c = '*' || c = '?' || c = '['

def wordsOf (f : Field) : Run (List String) := do
  let text := textOf f
  if !maybePattern text then return [String.ofList text]
  else
    let parts := pathParts (patternOf f)
    match ← pathsFitting (parts.length + 1) "" false parts with
    | [] => return [String.ofList text]
    | paths => return paths.mergeSort fun a b => a ≤ b

def wordsOfAll (fields : List Field) : Run (List String) := do
  if (← get).has .noGlobbing || !fields.any fun f => maybePattern (textOf f) then
    return fields.map fun f => String.ofList (textOf f)
  else return (← fields.mapM wordsOf).flatten

end Conformance.Shell

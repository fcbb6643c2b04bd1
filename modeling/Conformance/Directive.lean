import Conformance.Text.Search
import Conformance.Text.WordChar

/-! # Directives

A fixture states what it expects in comments. Each kind of directive has a recogniser for the
front of a text; a line holds the directive of the first kind that occurs anywhere in it, taken at
its leftmost place. All of them run to the end of the line.
-/

namespace Conformance

open Conformance.Text (after? run? leftmost occurs isDigit isWordChar)

inductive Directive where
  | output (text : String)
  | error (message : String)
  /-- The interpreter reports this compile error for another line. With a tag, it does so only if
  it implements that language. -/
  | errorAt (tag : Option String) (line message : String)
  | runtimeError (message : String)
deriving DecidableEq, Repr

namespace Directive

/-- The text of an expected output, at the front: what follows the marker and one blank. -/
def outputAt (text : List Char) : Option (List Char) :=
  (after? "// expect:".toList text).map fun rest =>
    match rest with
    | ' ' :: rest => rest
    | rest => rest

def messageAt (text : List Char) : Option (List Char) :=
  (after? "Error".toList text).map fun _ => text

def errorAt? (text : List Char) : Option (List Char) :=
  (after? "// ".toList text).bind messageAt

/-- A line number with the message that belongs to it, at the front: `line N] Error...`. -/
def numberedAt (text : List Char) : Option (List Char × List Char) := do
  let text ← after? "line ".toList text
  let (digits, text) ← run? isDigit text
  let text ← after? "] ".toList text
  let message ← messageAt text
  some (digits, message)

def tagAt (text : List Char) : Option (List Char × List Char) := do
  let (tag, text) ← run? isWordChar text
  let text ← after? " ".toList text
  some (tag, text)

/-- The tag, number and message of a compile error for another line, at the front. A word before
the number is read as a tag whenever that succeeds. -/
def numberedErrorAt (text : List Char) :
    Option (Option (List Char) × List Char × List Char) := do
  let text ← after? "// [".toList text
  let tagged := (tagAt text).bind fun tag =>
    (numberedAt tag.2).map fun found => (some tag.1, found)
  tagged <|> (numberedAt text).map fun found => (none, found)

def runtimeErrorAt (text : List Char) : Option (List Char) :=
  match after? "// expect runtime error: ".toList text with
  | some [] => none
  | found => found

/-- Whether the line ends the test: it and all lines after it are no part of the fixture. -/
def endsTest (line : List Char) : Bool :=
  occurs "// nontest".toList line

def recognise (line : List Char) : Option Directive :=
  match leftmost outputAt line with
  | some (_, text) => some (.output (String.ofList text))
  | none =>
  match leftmost errorAt? line with
  | some (_, message) => some (.error (String.ofList message))
  | none =>
  match leftmost numberedErrorAt line with
  | some (_, tag, digits, message) =>
    some (.errorAt (tag.map String.ofList) (String.ofList digits) (String.ofList message))
  | none =>
  match leftmost runtimeErrorAt line with
  | some (_, message) => some (.runtimeError (String.ofList message))
  | none => none

def applies (language : Option String) : Directive → Bool
  | .errorAt (some tag) _ _ => language = some tag
  | _ => true

end Directive

end Conformance

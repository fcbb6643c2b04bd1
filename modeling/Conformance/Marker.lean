import Conformance.Diagnostic
import Conformance.Text.Lines
import Conformance.Text.Utf8

/-! # Places of markers

Where a marker stands in a text, and where its parts stand. No marker extends over a newline, so
the first place in a text lies in the first line that has one. Offsets count bytes.
-/

namespace Conformance

open Conformance.Text (after? leftmost pieces byteLength)

inductive Marker where
  | output | error | numberedError | runtimeError | diagnostic | frame | endOfTest
deriving DecidableEq, Repr

/-- A part of a text with its byte offset. -/
structure Span where
  start : Nat
  text : String
deriving DecidableEq, Repr

namespace Marker

def partBeforeEnd (text : List Char) (count left : Nat) : Nat × List Char :=
  (text.length - left - count, (text.drop (text.length - left - count)).take count)

def tailPart (text part : List Char) : Nat × List Char :=
  partBeforeEnd text part.length 0

/-- The number that stands two characters before a message at the end of `text`. -/
def numberPart (text digits message : List Char) : Nat × List Char :=
  partBeforeEnd text digits.length (message.length + 2)

/-- The parts of a marker at the front of a text, as character offset and characters; the first
part is the whole marker. A part may be absent. -/
def partsAt (marker : Marker) (text : List Char) : Option (List (Option (Nat × List Char))) :=
  match marker with
  | .output => (Directive.outputAt text).map fun rest => [some (0, text), some (tailPart text rest)]
  | .error => (Directive.errorAt? text).map fun m => [some (0, text), some (tailPart text m)]
  | .numberedError => (Directive.numberedErrorAt text).map fun (tag, digits, message) =>
      [some (0, text), tag.map fun tag => ("// [".length, tag),
        some (numberPart text digits message), some (tailPart text message)]
  | .runtimeError =>
    (Directive.runtimeErrorAt text).map fun m => [some (0, text), some (tailPart text m)]
  | .diagnostic => (Diagnostic.bracketAt text).map fun d =>
      [some (0, text), some (numberPart text d.line d.message), some (tailPart text d.message)]
  | .frame => (Diagnostic.frameAt text).map fun (_, rest) =>
      [some (0, text.take (text.length - rest.length))]
  | .endOfTest => (after? "// nontest".toList text).map fun rest =>
      [some (0, text.take (text.length - rest.length))]

/-- The spans of a marker in a line that starts at byte `start`. -/
def spansInLine (marker : Marker) (start : Nat) (line : List Char) : Option (List (Option Span)) :=
  (leftmost marker.partsAt line).map fun (front, parts) =>
    parts.map fun part => part.map fun (offset, chars) =>
      ⟨start + byteLength (line.take (front.length + offset)), String.ofList chars⟩

def spansInLines (marker : Marker) : Nat → List (List Char) → Option (List (Option Span))
  | _, [] => none
  | start, line :: rest =>
    (marker.spansInLine start line).or (marker.spansInLines (start + byteLength line + 1) rest)

def spans (marker : Marker) (text : String) : Option (List (Option Span)) :=
  marker.spansInLines 0 (pieces text.toList)

end Marker

end Conformance

import Conformance.Format
import Conformance.Utility.Options

/-! # Formatted output as a program

The stand-alone `printf` and `echo`, and the programs that only have a status.
-/

namespace Conformance.Utility.Printf

open Conformance.System

def words : Format.Problem → String
  | .notNumeric a => quote a ++ ": expected a numeric value"
  | .notWhollyNumeric a => quote a ++ ": value not completely converted"
  | .outOfRange a => quote a ++ ": Numerical result out of range"
  | .afterCharacter a =>
    "warning: " ++ a ++ ": character(s) following character constant have been ignored"
  | .excessArguments a => "warning: ignoring excess arguments, starting with " ++ quote a
  | .invalidDirective d => d ++ ": invalid conversion specification"
  | .missingDirective => "%: invalid conversion specification"
  | .missingDigits => "missing hexadecimal number in escape"
  | .noCharacter e => "invalid universal character name " ++ e
  | .invalidWidth a => "invalid field width: " ++ quote a
  | .invalidPrecision a => "invalid precision: " ++ quote a

def writeEvents (name : String) : List Format.Event → List (List Char) → Nat → Action Nat
  | [], texts, status => do
    let text := texts.reverse.flatten
    afterWriting name status (← put (bytesOf text))
  | .text text :: rest, texts, status => writeEvents name rest (text :: texts) status
  | .problem p :: rest, texts, status => do
    let _ ← put (bytesOf texts.reverse.flatten)
    complain name (words p)
    writeEvents name rest [] (if p.isWarning then status else 1)

def run (name : String) (args : List String) : Action Nat :=
  match args with
  | ["--help"] | ["--version"] => return 0
  | _ =>
    let args := match args with
      | "--" :: rest => rest
      | _ => args
    match args with
    | [] => refuse name "missing operand"
    | format :: arguments =>
      writeEvents name (Format.printf .program quoteIfNeeded format arguments) [] 0

def echo (name : String) (args : List String) : Action Nat := do
  afterWriting name 0 (← put (bytesOf (Format.echoProgram args)))

end Conformance.Utility.Printf

import Conformance.Json
import Conformance.Text.Search

/-! # Reading JSON

`Json.parse?` reads one value with blanks around it. Each reader answers with what it read and
what is left of the text. Nesting is bounded by fuel computed from the length of the text: every
level of nesting costs a character.
-/

namespace Conformance.Json

open Conformance.Text (after? run?)

def skipBlanks (text : List Char) : List Char :=
  text.dropWhile fun c => c = ' ' || c = '\n' || c = '\r' || c = '\t'

def hexValue? (c : Char) : Option Nat :=
  if c.isDigit then some (c.toNat - 48)
  else if 'a' ≤ c ∧ c ≤ 'f' then some (c.toNat - 87)
  else if 'A' ≤ c ∧ c ≤ 'F' then some (c.toNat - 55)
  else none

def hexCode? (a b c d : Char) : Option Nat := do
  let a ← hexValue? a
  let b ← hexValue? b
  let c ← hexValue? c
  let d ← hexValue? d
  some (((a * 16 + b) * 16 + c) * 16 + d)

def simpleEscape? (c : Char) : Option Char :=
  if c = '\"' then some '\"'
  else if c = '\\' then some '\\'
  else if c = '/' then some '/'
  else if c = 'b' then some '\x08'
  else if c = 'f' then some '\x0c'
  else if c = 'n' then some '\n'
  else if c = 'r' then some '\r'
  else if c = 't' then some '\t'
  else none

/-- Reads a string after its opening quote. A code above the basic plane is a pair of escapes. -/
def readString : List Char → Option (List Char × List Char)
  | [] => none
  | '\"' :: rest => some ([], rest)
  | '\\' :: 'u' :: a :: b :: c :: d :: '\\' :: 'u' :: e :: f :: g :: h :: rest =>
    match hexCode? a b c d with
    | none => none
    | some high =>
      if 0xD800 ≤ high ∧ high < 0xDC00 then
        match hexCode? e f g h with
        | none => none
        | some low =>
          if 0xDC00 ≤ low ∧ low < 0xE000 then
            (readString rest).map fun read =>
              (Char.ofNat (0x10000 + (high - 0xD800) * 0x400 + (low - 0xDC00)) :: read.1, read.2)
          else none
      else if 0xDC00 ≤ high ∧ high < 0xE000 then none
      else (readString ('\\' :: 'u' :: e :: f :: g :: h :: rest)).map fun read =>
        (Char.ofNat high :: read.1, read.2)
  | '\\' :: 'u' :: a :: b :: c :: d :: rest =>
    match hexCode? a b c d with
    | none => none
    | some code =>
      if 0xD800 ≤ code ∧ code < 0xE000 then none
      else (readString rest).map fun read => (Char.ofNat code :: read.1, read.2)
  | '\\' :: c :: rest =>
    match simpleEscape? c with
    | none => none
    | some c => (readString rest).map fun read => (c :: read.1, read.2)
  | c :: rest =>
    if c.toNat < 0x20 ∨ c = '\\' then none
    else (readString rest).map fun read => (c :: read.1, read.2)

def readDigits (text : List Char) : Option (List Char × List Char) :=
  match run? Char.isDigit text with
  | some ('0' :: _ :: _, _) => none
  | found => found

def readFraction (text : List Char) : Option (List Char × List Char) := do
  let (fraction, rest) ← match text with
    | '.' :: rest => (run? Char.isDigit rest).map fun run => ('.' :: run.1, run.2)
    | _ => some ([], text)
  match rest with
  | e :: rest' =>
    if e = 'e' ∨ e = 'E' then
      match rest' with
      | sign :: digits =>
        if sign = '+' ∨ sign = '-' then
          (run? Char.isDigit digits).map fun run => (fraction ++ e :: sign :: run.1, run.2)
        else (run? Char.isDigit rest').map fun run => (fraction ++ e :: run.1, run.2)
      | [] => none
    else some (fraction, rest)
  | [] => some (fraction, rest)

def digitsValue (digits : List Char) : Nat :=
  digits.foldl (fun n c => n * 10 + (c.toNat - 48)) 0

/-- Reads a number. It is an integer when it has neither fraction nor exponent and is not a
negative zero. -/
def readNumber (text : List Char) : Option (Json × List Char) := do
  let (sign, rest) := match text with
    | '-' :: rest => (['-'], rest)
    | _ => ([], text)
  let (digits, rest) ← readDigits rest
  let (fraction, rest) ← readFraction rest
  if fraction.isEmpty ∧ (sign.isEmpty ∨ digits ≠ ['0']) then
    let n : Int := digitsValue digits
    some (.integer (if sign.isEmpty then n else -n), rest)
  else some (.decimal (String.ofList (sign ++ digits ++ fraction)), rest)

mutual

def readValue : Nat → List Char → Option (Json × List Char)
  | 0, _ => none
  | fuel + 1, text =>
    match text with
    | '\"' :: rest => (readString rest).map fun read => (.string (String.ofList read.1), read.2)
    | '[' :: rest =>
      match skipBlanks rest with
      | ']' :: rest => some (.array [], rest)
      | rest => (readItems fuel rest).map fun read => (.array read.1, read.2)
    | '\x7b' :: rest =>
      match skipBlanks rest with
      | '\x7d' :: rest => some (.object [], rest)
      | rest => (readFields fuel rest).map fun read => (.object read.1, read.2)
    | 'n' :: 'u' :: 'l' :: 'l' :: rest => some (.null, rest)
    | 't' :: 'r' :: 'u' :: 'e' :: rest => some (.bool true, rest)
    | 'f' :: 'a' :: 'l' :: 's' :: 'e' :: rest => some (.bool false, rest)
    | text => readNumber text

def readItems : Nat → List Char → Option (List Json × List Char)
  | 0, _ => none
  | fuel + 1, text =>
    match readValue fuel text with
    | none => none
    | some (item, rest) =>
      match skipBlanks rest with
      | ']' :: rest => some ([item], rest)
      | ',' :: rest =>
        (readItems fuel (skipBlanks rest)).map fun read => (item :: read.1, read.2)
      | _ => none

def readFields : Nat → List Char → Option (List (String × Json) × List Char)
  | 0, _ => none
  | fuel + 1, text =>
    match text with
    | '\"' :: rest =>
      match readString rest with
      | none => none
      | some (name, rest) =>
        match skipBlanks rest with
        | ':' :: rest =>
          match readValue fuel (skipBlanks rest) with
          | none => none
          | some (value, rest) =>
            match skipBlanks rest with
            | '\x7d' :: rest => some ([(String.ofList name, value)], rest)
            | ',' :: rest =>
              (readFields fuel (skipBlanks rest)).map fun read =>
                ((String.ofList name, value) :: read.1, read.2)
            | _ => none
        | _ => none
    | _ => none

end

/-- The value that a text holds, if it holds one value and blanks. -/
def parse? (text : String) : Option Json :=
  let chars := text.toList
  match readValue (2 * chars.length + 2) (skipBlanks chars) with
  | some (value, rest) => if (skipBlanks rest).isEmpty then some value else none
  | none => none

end Conformance.Json

import Conformance.Json

/-! # Writing JSON

A value is written on one line, or over several lines with two blanks per level. Strings escape
the quote, the backslash and the control characters below the blank, and nothing else.
-/

namespace Conformance.Json

def hexDigit (n : Nat) : Char :=
  if n < 10 then Char.ofNat (48 + n) else Char.ofNat (87 + n)

def escape (c : Char) : List Char :=
  if c = '\"' then ['\\', '\"']
  else if c = '\\' then ['\\', '\\']
  else if c = '\n' then ['\\', 'n']
  else if c = '\r' then ['\\', 'r']
  else if c = '\t' then ['\\', 't']
  else if c = '\x08' then ['\\', 'b']
  else if c = '\x0c' then ['\\', 'f']
  else if c.toNat < 0x20 then
    ['\\', 'u', '0', '0', hexDigit (c.toNat / 16), hexDigit (c.toNat % 16)]
  else [c]

def quote (text : String) : List Char :=
  '\"' :: text.toList.flatMap escape ++ ['\"']

def integerText (n : Int) : List Char := (toString n).toList

mutual

def compact : Json → List Char
  | .null => "null".toList
  | .bool true => "true".toList
  | .bool false => "false".toList
  | .integer n => integerText n
  | .decimal text => text.toList
  | .string text => quote text
  | .array items => '[' :: compactItems items
  | .object fields => '\x7b' :: compactFields fields

def compactItems : List Json → List Char
  | [] => [']']
  | [item] => compact item ++ [']']
  | item :: rest => compact item ++ ',' :: compactItems rest

def compactFields : List (String × Json) → List Char
  | [] => ['\x7d']
  | [(name, value)] => quote name ++ ':' :: compact value ++ ['\x7d']
  | (name, value) :: rest => quote name ++ ':' :: compact value ++ ',' :: compactFields rest

end

def newline (level : Nat) : List Char := '\n' :: List.replicate (2 * level) ' '

mutual

/-- A value over several lines; `level` is the indentation of the line it starts on. -/
def pretty (level : Nat) : Json → List Char
  | .null => "null".toList
  | .bool true => "true".toList
  | .bool false => "false".toList
  | .integer n => integerText n
  | .decimal text => text.toList
  | .string text => quote text
  | .array [] => ['[', ']']
  | .array (item :: rest) => '[' :: newline (level + 1) ++ prettyItems level (item :: rest)
  | .object [] => ['\x7b', '\x7d']
  | .object (field :: rest) =>
    '\x7b' :: newline (level + 1) ++ prettyFields level (field :: rest)

def prettyItems (level : Nat) : List Json → List Char
  | [] => newline level ++ [']']
  | [item] => pretty (level + 1) item ++ newline level ++ [']']
  | item :: rest => pretty (level + 1) item ++ ',' :: newline (level + 1) ++ prettyItems level rest

def prettyFields (level : Nat) : List (String × Json) → List Char
  | [] => newline level ++ ['\x7d']
  | [(name, value)] =>
    quote name ++ ':' :: ' ' :: pretty (level + 1) value ++ newline level ++ ['\x7d']
  | (name, value) :: rest =>
    quote name ++ ':' :: ' ' :: pretty (level + 1) value ++ ',' :: newline (level + 1) ++
      prettyFields level rest

end

def line (value : Json) : String := String.ofList value.compact

def document (value : Json) : String := String.ofList (value.pretty 0 ++ ['\n'])

end Conformance.Json

import Conformance.System.Call

/-! # What utilities say

Messages start with the name that the utility was called by. Names in messages are quoted: always
between quotes, or only where a shell would need that.
-/

namespace Conformance.Utility

open Conformance.System

def say (descriptor : Nat) (text : String) : Action (Except Error Unit) :=
  Action.call (.write descriptor (bytesOf text.toList))

def put (bytes : List UInt8) : Action (Except Error Unit) :=
  if bytes.isEmpty then return .ok () else Action.call (.write 1 bytes)

def isClosed (descriptor : Nat) : Action Bool := do
  match ← Action.call (.inspectDescriptor descriptor) with
  | .ok _ => return false
  | .error _ => return true

def complain (name message : String) : Action Unit := do
  let _ ← say 2 (name ++ ": " ++ message ++ "\n")

def refuse (name message : String) : Action Nat := do
  complain name message
  let _ ← say 2 ("Try '" ++ name ++ " --help' for more information.\n")
  return 1

/-- What a program does that has written all it had to say: a failure to write is told. -/
def afterWriting (name : String) (status : Nat) : Except Error Unit → Action Nat
  | .ok () => return status
  | .error e => do
    complain name ("write error: " ++ e.message)
    return 1

/-! ## Quoting -/

def isPrintable (c : Char) : Bool := ' ' ≤ c && c < '\x7f'

def controlLetter? (c : Char) : Option Char :=
  match c with
  | '\x07' => some 'a'
  | '\x08' => some 'b'
  | '\x0c' => some 'f'
  | '\n' => some 'n'
  | '\r' => some 'r'
  | '\t' => some 't'
  | '\x0b' => some 'v'
  | _ => none

def octalCode (c : Char) : List Char :=
  let digits := Nat.toDigits 8 c.toNat
  List.replicate (3 - digits.length) '0' ++ digits

def escapeOf (c : Char) : List Char :=
  '\\' :: match controlLetter? c with
    | some letter => [letter]
    | none => octalCode c

def quote (text : String) : String :=
  let body := text.toList.flatMap fun c =>
    if c = '\'' || c = '\\' then ['\\', c]
    else if isPrintable c then [c]
    else escapeOf c
  "'" ++ String.ofList body ++ "'"

def isSpecial (first : Bool) (c : Char) : Bool :=
  !isPrintable c || " !\"$&()*;<=>[^\x60|?\\':".toList.contains c ||
    (first && (c = '#' || c = '~'))

def isHarmless (c : Char) : Bool :=
  c.isAlphanum || " %+,-./:]_\x7b\x7d#~'@".toList.contains c

/-- The end of a text in single quotes. Characters that cannot be printed stand in quotes of their
own, which are open if `coded` holds. -/
def inSingleQuotes : (coded : Bool) → List Char → List Char
  | _, [] => ['\'']
  | coded, c :: rest =>
    if !isPrintable c then
      (if coded then [] else "'$'".toList) ++ escapeOf c ++ inSingleQuotes true rest
    else if c = '\'' then "'\\''".toList ++ inSingleQuotes false rest
    else (if coded then "''".toList else []) ++ c :: inSingleQuotes false rest

def quoteAlways (text : String) : String :=
  let chars := text.toList
  if chars.contains '\'' && chars.all isHarmless then "\"" ++ text ++ "\""
  else String.ofList ('\'' :: inSingleQuotes false chars)

/-- A text that is quoted if a shell would take it for more than itself. -/
def quoteIfNeeded (text : String) : String :=
  match text.toList with
  | [] => "''"
  | first :: rest =>
    let isBrace : Bool := rest.isEmpty && (first = '\x7b' || first = '\x7d')
    if isSpecial true first || rest.any (isSpecial false) || isBrace then quoteAlways text else text

end Conformance.Utility

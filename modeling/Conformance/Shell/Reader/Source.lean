import Conformance.Shell.Command

/-! # Positions in a script

A script is read as far as it is known; more of it may come. A word can be replaced by the value of
an alias, which is then read before the rest. A backslash at the end of a line joins it with the
next one.
-/

namespace Conformance.Shell

inductive Token where
  | endOfFile | newline | semicolon | ampersand | andIf | orIf | pipe | openParen | closeParen
  | doubleSemicolon | redirection | word
  | keyword (text : String)
deriving DecidableEq, Repr

namespace Token

def display : Token → String
  | .endOfFile => "end of file"
  | .newline => "newline"
  | .semicolon => "\";\""
  | .ampersand => "\"&\""
  | .andIf => "\"&&\""
  | .orIf => "\"||\""
  | .pipe => "\"|\""
  | .openParen => "\"(\""
  | .closeParen => "\")\""
  | .doubleSemicolon => "\";;\""
  | .redirection => "redirection"
  | .word => "word"
  | .keyword text => "\"" ++ text ++ "\""

def keywords : List String :=
  ["!", "case", "do", "done", "elif", "else", "esac", "fi", "for", "if", "in", "then", "until",
    "while", "\x7b", "\x7d"]

def endsList : Token → Bool
  | .endOfFile | .closeParen | .doubleSemicolon => true
  | .keyword text =>
    ["do", "done", "elif", "else", "esac", "fi", "then", "\x7d"].contains text
  | _ => false

end Token

inductive Complaint where
  | unexpected (token : Token) (wanted : Option Token)
  | openQuotes
  | openBackquotes
  | openBraces
  | openSum
  | badLoopVariable
  | badFunctionName
  | badDescriptor
deriving DecidableEq, Repr

def Complaint.message : Complaint → String
  | .unexpected token none => "Syntax error: " ++ token.display ++ " unexpected"
  | .unexpected token (some wanted) =>
    "Syntax error: " ++ token.display ++ " unexpected (expecting " ++ wanted.display ++ ")"
  | .openQuotes => "Syntax error: Unterminated quoted string"
  | .openBackquotes => "Syntax error: EOF in backquote substitution"
  | .openBraces => "Syntax error: Missing '\x7d'"
  | .openSum => "Syntax error: Missing '))'"
  | .badLoopVariable => "Syntax error: Bad for loop variable"
  | .badFunctionName => "Syntax error: Bad function name"
  | .badDescriptor => "Syntax error: Bad fd number"

inductive Stop where
  /-- The end of what is known of the script has been reached. -/
  | needsMore
  | refused (line : Nat) (complaint : Complaint)
deriving DecidableEq, Repr

structure Replacement where
  name : String
  rest : List Char
  last : Option Char
deriving DecidableEq, Repr

structure Checks where
  newlines : Bool := false
  keywords : Bool := false
  aliases : Bool := false
  /-- The word ends the text of a redirection. -/
  delimiter : Bool := false
deriving DecidableEq, Repr

structure Awaited where
  document : Nat
  delimiter : List Char
  stripsTabs : Bool
  expands : Bool
deriving DecidableEq, Repr

structure Reader where
  rest : List Char
  /-- Whether nothing can follow what is known of the script. -/
  complete : Bool
  line : Nat := 1
  aliases : List (String × String) := []
  replacements : List Replacement := []
  checks : Checks := {}
  token : Token := .newline
  pushedBack : Bool := false
  /-- The last word, and whether a part of it was quoted. -/
  word : Word := []
  quoted : Bool := false
  redirection : Redirection := .mk 0 .input [] 0
  stripsTabs : Bool := false
  awaited : List Awaited := []
  documents : List (Nat × Word) := []
  nextDocument : Nat := 1

abbrev Outcome (α : Type) := Except Stop (α × Reader)

abbrev Reading := StateT Reader (Except Stop)

namespace Reader

/-- The next character, and the reader after it. The value of an alias that has been read to its end
gives way to what follows it; a blank at its end makes the next word an alias too. -/
def next (r : Reader) : Outcome (Option Char) :=
  match r.replacements with
  | [] =>
    match r.rest with
    | c :: rest => .ok (some c, { r with rest })
    | [] => if r.complete then .ok (none, r) else .error .needsMore
  | ⟨name, c :: rest, last⟩ :: outer =>
    .ok (some c, { r with replacements := ⟨name, rest, last⟩ :: outer })
  | replacements =>
    let finished := replacements.takeWhile fun entry => entry.rest.isEmpty
    let blank := finished.any fun entry => entry.last = some ' ' || entry.last = some '\t'
    let checks := if blank then { r.checks with aliases := true } else r.checks
    match replacements.drop finished.length with
    | ⟨name, c :: rest, last⟩ :: outer =>
      .ok (some c, { r with checks, replacements := ⟨name, rest, last⟩ :: outer })
    | _ =>
      match r.rest with
      | c :: rest => .ok (some c, { r with checks, replacements := [], rest })
      | [] =>
        if r.complete then .ok (none, { r with checks, replacements := [] })
        else .error .needsMore

/-- The reader after joined lines. The fuel bounds their number. -/
def joined : Nat → Reader → Except Stop Reader
  | 0, r => .ok r
  | fuel + 1, r =>
    match r.next with
    | .ok (some '\\', after) =>
      match after.next with
      | .ok (some '\n', after) => joined fuel { after with line := after.line + 1 }
      | .ok _ => .ok r
      | .error e => .error e
    | .ok _ => .ok r
    | .error e => .error e

def manyLines : Nat := 1000000000

def nextJoined (r : Reader) : Outcome (Option Char) :=
  match r.joined manyLines with
  | .ok r => r.next
  | .error e => .error e

def refuse {α : Type} (r : Reader) (complaint : Complaint) : Except Stop α :=
  .error (.refused r.line complaint)

end Reader

end Conformance.Shell

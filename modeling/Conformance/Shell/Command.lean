/-! # Shell commands

What a shell script says: commands, the words they are made of, and the places their input and
output are sent to. Characters of scripts and of all that a shell handles stand for bytes.
-/

namespace Conformance.Shell

inductive ParameterForm where
  | plain
  | length
  | useDefault (orEmpty : Bool)
  | assign (orEmpty : Bool)
  | complain (orEmpty : Bool)
  /-- A word in place of one that has a value. -/
  | useAlternative (orEmpty : Bool)
  | cut (atFront longest : Bool)
  | invalid
deriving DecidableEq, Repr

inductive RedirectionKind where
  | input | both | output | clobber | append
  | copy
  /-- The input is a text that is taken as it is. -/
  | text
  /-- The input is a text that is expanded. -/
  | expandedText
deriving DecidableEq, Repr

mutual

inductive Part where
  | plain (c : Char)
  | escaped (c : Char)
  | quoteMark
  | parameter (name : List Char) (form : ParameterForm) (word : List Part)
  | output (body : Option Command)
  | number (expression : List Part)

/-- Where a descriptor leads. A text that follows later in the script has a number until it is
known. -/
inductive Redirection where
  | mk (descriptor : Nat) (kind : RedirectionKind) (target : List Part) (document : Nat)

inductive Command where
  | simple (line : Nat) (assignments words : List (List Part)) (redirections : List Redirection)
  | redirected (line : Nat) (command : Command) (redirections : List Redirection)
  | pipeline (waits : Bool) (commands : List Command)
  | negation (command : Command)
  | both (first second : Command)
  | either (first second : Command)
  | sequence (first second : Command)
  | background (line : Nat) (command : Command) (redirections : List Redirection)
  | subshell (line : Nat) (command : Option Command) (redirections : List Redirection)
  | branch (condition body otherwise : Option Command)
  /-- The body is repeated as long as the condition has the given outcome. -/
  | loop (outcome : Bool) (condition body : Option Command)
  | each (line : Nat) (name : List Char) (words : List (List Part)) (body : Option Command)
  | choice (line : Nat) (subject : List Part)
      (cases : List (List (List Part) × Option Command))
  | definition (line : Nat) (name : List Char) (body : Option Command)

end

instance : Inhabited Part := ⟨.quoteMark⟩
instance : Inhabited Redirection := ⟨.mk 0 .input [] 0⟩
instance : Inhabited Command := ⟨.simple 0 [] [] []⟩

abbrev Word := List Part

namespace Redirection

def descriptor : Redirection → Nat
  | .mk descriptor .. => descriptor

def kind : Redirection → RedirectionKind
  | .mk _ kind .. => kind

def target : Redirection → Word
  | .mk _ _ target _ => target

def withDocument (documents : List (Nat × Word)) : Redirection → Redirection
  | .mk descriptor kind target document =>
    match documents.find? fun entry => entry.1 = document with
    | some (_, text) =>
      if kind = .text || kind = .expandedText then .mk descriptor kind text document
      else .mk descriptor kind target document
    | none => .mk descriptor kind target document

end Redirection

namespace Command

mutual

def withDocuments (documents : List (Nat × Word)) : Command → Command
  | .simple line assignments words redirections =>
    .simple line assignments words (redirections.map (Redirection.withDocument documents))
  | .redirected line command redirections =>
    .redirected line (command.withDocuments documents)
      (redirections.map (Redirection.withDocument documents))
  | .pipeline waits commands => .pipeline waits (withDocumentsAll documents commands)
  | .negation command => .negation (command.withDocuments documents)
  | .both first second =>
    .both (first.withDocuments documents) (second.withDocuments documents)
  | .either first second =>
    .either (first.withDocuments documents) (second.withDocuments documents)
  | .sequence first second =>
    .sequence (first.withDocuments documents) (second.withDocuments documents)
  | .background line command redirections =>
    .background line (command.withDocuments documents)
      (redirections.map (Redirection.withDocument documents))
  | .subshell line command redirections =>
    .subshell line (withDocumentsOption documents command)
      (redirections.map (Redirection.withDocument documents))
  | .branch condition body otherwise =>
    .branch (withDocumentsOption documents condition) (withDocumentsOption documents body)
      (withDocumentsOption documents otherwise)
  | .loop outcome condition body =>
    .loop outcome (withDocumentsOption documents condition) (withDocumentsOption documents body)
  | .each line name words body => .each line name words (withDocumentsOption documents body)
  | .choice line subject cases => .choice line subject (withDocumentsCases documents cases)
  | .definition line name body => .definition line name (withDocumentsOption documents body)

def withDocumentsOption (documents : List (Nat × Word)) : Option Command → Option Command
  | none => none
  | some command => some (command.withDocuments documents)

def withDocumentsAll (documents : List (Nat × Word)) :
    List Command → List Command
  | [] => []
  | command :: rest => command.withDocuments documents :: withDocumentsAll documents rest

def withDocumentsCases (documents : List (Nat × Word)) :
    List (List Word × Option Command) → List (List Word × Option Command)
  | [] => []
  | (patterns, body) :: rest =>
    (patterns, withDocumentsOption documents body) :: withDocumentsCases documents rest

end

end Command

def startsName (c : Char) : Bool := c.isAlpha || c = '_'

def continuesName (c : Char) : Bool := c.isAlphanum || c = '_'

def isName (text : List Char) : Bool := text.head?.any startsName && text.all continuesName

def isSpecial (c : Char) : Bool := c.isDigit || "@*#?-$!".toList.contains c

namespace Word

def text? : Word → Option (List Char)
  | [] => some []
  | .plain c :: rest => (text? rest).map (c :: ·)
  | _ :: _ => none

def isAssignment (w : Word) : Bool :=
  let rec go : Bool → Word → Bool
    | started, .plain c :: rest =>
      if c = '=' then started
      else if started then continuesName c && go true rest
      else startsName c && go true rest
    | _, _ => false
  go false w

def splitAssignment (w : Word) : String × Word :=
  let name := w.takeWhile fun part => match part with
    | .plain '=' => false
    | _ => true
  (String.ofList ((text? name).getD []), w.drop (name.length + 1))

end Word

end Conformance.Shell

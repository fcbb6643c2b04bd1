import Conformance.Shell.Binding

/-! # Tests

The utility that answers tests of texts, numbers and files by its status. Words are operators only
where they can be.
-/

namespace Conformance.Shell.Test

open Conformance.System

inductive Meaning where
  | operand | unary | binary | negation | conjunction | disjunction | openParen | closeParen
  | nothing
deriving DecidableEq, Repr

def unaryOperators : List String :=
  ["-r", "-w", "-x", "-e", "-f", "-d", "-c", "-b", "-p", "-u", "-g", "-k", "-s", "-t", "-z", "-n",
    "-h", "-O", "-G", "-L", "-S"]

def binaryOperators : List String :=
  ["=", "!=", "<", ">", "-eq", "-ne", "-ge", "-gt", "-le", "-lt", "-nt", "-ot", "-ef"]

def meaning : List String → Meaning
  | [] => .nothing
  | word :: rest =>
    if unaryOperators.contains word then
      match rest with
      | [] => .operand
      | [_] => .unary
      | first :: _ => if binaryOperators.contains first then .operand else .unary
    else if binaryOperators.contains word then .binary
    else match word with
      | "!" => .negation
      | "-a" => .conjunction
      | "-o" => .disjunction
      | "(" => if rest.isEmpty then .operand else .openParen
      | ")" => .closeParen
      | _ => .operand

def numberOf (word : String) : Run Int := do
  match decimal? word with
  | some n => return n
  | none => fail ("Illegal number: " ++ word)

def ofFile (path : String) (follow : Bool) (p : FileInfo → Bool) : Run Bool := do
  match ← Run.call (.inspect path follow) with
  | .ok info => return p info
  | .error _ => return false

def unary (operator operand : String) : Run Bool := do
  match operator with
  | "-n" => return operand ≠ ""
  | "-z" => return operand = ""
  | "-t" =>
    let _ ← numberOf operand
    return false
  | "-e" | "-r" | "-w" | "-O" | "-G" => ofFile operand true fun _ => true
  | "-x" => ofFile operand true FileInfo.executable
  | "-f" => ofFile operand true fun info => info.kind = .regular
  | "-d" => ofFile operand true fun info => info.kind = .directory
  | "-c" => ofFile operand true fun info => info.kind = .device
  | "-p" => ofFile operand true fun info => info.kind = .pipe
  | "-s" => ofFile operand true fun info => 0 < info.size
  | "-h" | "-L" => ofFile operand false fun info => info.kind = .link
  | _ => return false

def infoOf? (path : String) : Run (Option FileInfo) := do
  match ← Run.call (.inspect path true) with
  | .ok info => return some info
  | .error _ => return none

def ofFiles (left right : String) (p : FileInfo → FileInfo → Bool) : Run Bool := do
  match ← infoOf? left, ← infoOf? right with
  | some a, some b => return p a b
  | _, _ => return false

def ofNumbers (left right : String) (p : Int → Int → Bool) : Run Bool := do
  let a ← numberOf left
  let b ← numberOf right
  return p a b

def binary (left operator right : String) : Run Bool := do
  match operator with
  | "!=" => return left ≠ right
  | "<" => return left < right
  | ">" => return right < left
  | "-eq" => ofNumbers left right fun a b => a = b
  | "-ne" => ofNumbers left right fun a b => a ≠ b
  | "-lt" => ofNumbers left right fun a b => a < b
  | "-le" => ofNumbers left right fun a b => a ≤ b
  | "-gt" => ofNumbers left right fun a b => b < a
  | "-ge" => ofNumbers left right fun a b => b ≤ a
  | "-nt" => ofFiles left right fun a b => b.changed < a.changed
  | "-ot" => ofFiles left right fun a b => a.changed < b.changed
  | "-ef" => ofFiles left right fun a b => a.identity = b.identity
  | _ => return left = right

/-- The answer of an operand: a test with an operator, or whether the word is not empty. The words
are given from the operand on; the answer comes with those from its last word on. -/
def answerOperand (isOperator : Bool) (words : List String) : Run (Bool × List String) := do
  match words with
  | [] => return (false, [])
  | word :: rest =>
    if isOperator && unaryOperators.contains word then
      match rest with
      | [] => fail (word ++ ": argument expected")
      | operand :: _ => return (← unary word operand, rest)
    else if meaning rest = .binary then
      match rest with
      | operator :: right :: after => return (← binary word operator right, right :: after)
      | [operator] => fail (operator ++ ": argument expected")
      | [] => return (false, [])
    else return (word ≠ "", words)

mutual

def disjunction : Nat → Meaning → List String → Run (Bool × List String)
  | 0, _, words => return (false, words)
  | fuel + 1, first, words => do
    let (a, last) ← conjunction fuel first words
    if meaning (last.drop 1) = .disjunction then
      let next := last.drop 2
      let (b, last) ← disjunction fuel (meaning next) next
      return (a || b, last)
    else return (a, last)

def conjunction : Nat → Meaning → List String → Run (Bool × List String)
  | 0, _, words => return (false, words)
  | fuel + 1, first, words => do
    let (a, last) ← negation fuel first words
    if meaning (last.drop 1) = .conjunction then
      let next := last.drop 2
      let (b, last) ← conjunction fuel (meaning next) next
      return (a && b, last)
    else return (a, last)

def negation : Nat → Meaning → List String → Run (Bool × List String)
  | 0, _, words => return (false, words)
  | fuel + 1, first, words => do
    if first ≠ .negation then primary fuel first words
    else
      let rest := words.drop 1
      let next := meaning rest
      let (a, last) ← negation fuel next (if next = .nothing then words else rest)
      return (!a, last)

def primary : Nat → Meaning → List String → Run (Bool × List String)
  | 0, _, words => return (false, words)
  | fuel + 1, first, words => do
    match first with
    | .nothing => return (false, words)
    | .openParen =>
      let rest := words.drop 1
      if meaning rest = .closeParen then return (false, rest)
      else
        let (a, last) ← disjunction fuel (meaning rest) rest
        if meaning (last.drop 1) = .closeParen then return (a, last.drop 1)
        else fail "closing paren expected"
    | _ => answerOperand (first = .unary) words

end

def whole (first : Meaning) (words : List String) : Run Bool := do
  let (a, last) ← disjunction (4 * words.length + 8) first words
  match last.drop 1 with
  | [] => return a
  | _ :: _ =>
    let word := last.headD ""
    fail (if word.isEmpty then "unexpected operator" else word ++ ": unexpected operator")

/-- The answer of a test; few words are read by rules of their own. -/
def answer : Nat → List String → Run Bool
  | 0, _ => return false
  | _, [] => return false
  | fuel + 1, words => do
    let isBinary := words.length = 3 && binaryOperators.contains ((words.drop 1).headD "")
    if isBinary then whole .operand words
    else if words.length = 3 || words.length = 4 then
      if words.head? = some "(" && words.getLast? = some ")" then
        let inner := (words.drop 1).dropLast
        whole (meaning inner) inner
      else if words.head? = some "!" then return !(← answer fuel (words.drop 1))
      else whole (meaning words) words
    else whole (meaning words) words

/-- The utility. Called by a bracket, it wants a last word that starts with another one. -/
def run (name : String) (args : List String) : Run Nat := do
  if name = "[" && !(args.getLast?.any (·.startsWith "]")) then fail "missing ]"
  let words := if name = "[" then args.dropLast else args
  return if ← answer (words.length + 1) words then 0 else 1

end Conformance.Shell.Test

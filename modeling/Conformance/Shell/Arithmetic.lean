import Conformance.Integer
import Conformance.Shell.Command

/-! # Arithmetic of the shell

Expressions over integers of 64 bits that wrap around. An expression is evaluated while it is read;
what a condition rules out is read without being evaluated.
-/

namespace Conformance.Shell.Arithmetic

inductive Token where
  | number (n : Int)
  | name (text : String)
  | operator (text : String)
  | unknown
  | stop
deriving DecidableEq, Repr

inductive Obstacle where
  | expectingPrimary
  | expectingEnd
  | expecting (token : String)
  | divisionByZero
  | notANumber (text : String)
  /-- A quotient is too great for the machine. -/
  | overflow
deriving DecidableEq, Repr

def operators : List String :=
  ["<<=", ">>=", "<<", ">>", "<=", ">=", "==", "!=", "&&", "||", "+=", "-=", "*=", "/=", "%=", "&=",
    "^=", "|=", "+", "-", "*", "/", "%", "<", ">", "=", "!", "~", "&", "^", "|", "?", ":", "(", ")"]

def operatorTable : List (List Char × String) := operators.map fun op => (op.toList, op)

def assignments : List String :=
  ["=", "+=", "-=", "*=", "/=", "%=", "<<=", ">>=", "&=", "^=", "|="]

def nextToken (text : List Char) : Token × List Char :=
  match text.dropWhile fun c => c = ' ' || c = '\t' || c = '\n' with
  | [] => (.stop, [])
  | c :: rest =>
    if c.isDigit then
      match Integer.natural? false (c :: rest) with
      | some (n, rest) => (.number (min n Integer.greatest), rest)
      | none => (.unknown, c :: rest)
    else if startsName c then
      let more := rest.takeWhile continuesName
      (.name (String.ofList (c :: more)), rest.drop more.length)
    else
      match operatorTable.find? fun entry => entry.1.isPrefixOf (c :: rest) with
      | some (written, op) => (.operator op, (c :: rest).drop written.length)
      | none => (.unknown, c :: rest)

def precedence? (op : String) : Option Nat :=
  match op with
  | "|" => some 1
  | "^" => some 2
  | "&" => some 3
  | "==" | "!=" => some 4
  | "<" | "<=" | ">" | ">=" => some 5
  | "<<" | ">>" => some 6
  | "+" | "-" => some 7
  | "*" | "/" | "%" => some 8
  | _ => none

/-- An evaluation: the token that comes next with the text after it, and the variables that have been
assigned to, newest first. -/
structure Progress where
  token : Token := .stop
  rest : List Char
  assigned : List (String × Int) := []

abbrev Evaluating := ExceptT Obstacle (StateM Progress)

def advance : Evaluating Unit := modify fun p =>
  let (token, rest) := nextToken p.rest
  { p with token, rest }

def truth (b : Bool) : Int := if b then 1 else 0

def bits (n : Int) : BitVec 64 := BitVec.ofInt 64 n

def divide (op : Int → Int → Int) (a b : Int) : Except Obstacle Int :=
  if b = 0 then .error .divisionByZero
  else if a = Integer.least ∧ b = -1 then .error .overflow
  else .ok (op a b)

def combine (op : String) (a b : Int) : Except Obstacle Int :=
  match op with
  | "+" => .ok (Integer.wrap (a + b))
  | "-" => .ok (Integer.wrap (a - b))
  | "*" => .ok (Integer.wrap (a * b))
  | "/" => divide Int.tdiv a b
  | "%" => divide Int.tmod a b
  | "<<" => .ok ((bits a) <<< (b % 64).toNat).toInt
  | ">>" => .ok ((bits a).sshiftRight (b % 64).toNat).toInt
  | "&" => .ok (bits a &&& bits b).toInt
  | "|" => .ok (bits a ||| bits b).toInt
  | "^" => .ok (bits a ^^^ bits b).toInt
  | "==" => .ok (truth (a = b))
  | "!=" => .ok (truth (a ≠ b))
  | "<" => .ok (truth (a < b))
  | "<=" => .ok (truth (a ≤ b))
  | ">" => .ok (truth (a > b))
  | ">=" => .ok (truth (a ≥ b))
  | _ => .error .expectingEnd

def valueOf (text : String) : Except Obstacle Int :=
  let isBlank (c : Char) : Bool := c = ' ' || ('\t' ≤ c && c ≤ '\r')
  match Integer.read? false text.toList with
  | some (n, rest) =>
    if rest.all isBlank && Integer.least ≤ n && n ≤ Integer.greatest then .ok n
    else .error (.notANumber text)
  | none => if text.toList.all isBlank then .ok 0 else .error (.notANumber text)

def variableValue (lookUp : String → String) (name : String) : Evaluating Int := do
  match (← get).assigned.find? fun entry => entry.1 = name with
  | some (_, n) => return n
  | none => liftExcept (valueOf (lookUp name))
where
  liftExcept (result : Except Obstacle Int) : Evaluating Int := ExceptT.mk (pure result)

def apply (op : String) (a b : Int) : Evaluating Int := ExceptT.mk (pure (combine op a b))

mutual

/-- An expression that may be an assignment. With `idle`, it is only read. -/
def assignment (lookUp : String → String) : Nat → (idle : Bool) → Evaluating Int
  | 0, _ => throw .expectingPrimary
  | fuel + 1, idle => do
    let p ← get
    match p.token, nextToken p.rest with
    | .name name, (.operator op, rest) =>
      if assignments.contains op then
        set { p with rest }
        advance
        let value ← assignment lookUp fuel idle
        if idle then return value
        else
          let value ← if op = "=" then pure value else do
            apply (op.dropEnd 1).toString (← variableValue lookUp name) value
          modify fun p => { p with assigned := (name, value) :: p.assigned }
          return value
      else choice lookUp fuel idle
    | _, _ => choice lookUp fuel idle

def choice (lookUp : String → String) : Nat → (idle : Bool) → Evaluating Int
  | 0, _ => throw .expectingPrimary
  | fuel + 1, idle => do
    let a ← disjunction lookUp fuel idle
    if (← get).token ≠ .operator "?" then return a
    else
      advance
      let b ← assignment lookUp fuel (idle || a = 0)
      unless (← get).token = .operator ":" do throw (.expecting ":")
      advance
      let c ← choice lookUp fuel (idle || a ≠ 0)
      return if a ≠ 0 then b else c

def disjunction (lookUp : String → String) : Nat → (idle : Bool) → Evaluating Int
  | 0, _ => throw .expectingPrimary
  | fuel + 1, idle => do
    let a ← conjunction lookUp fuel idle
    if (← get).token ≠ .operator "||" then return a
    else
      advance
      let b ← disjunction lookUp fuel (idle || a ≠ 0)
      return truth (a ≠ 0 || b ≠ 0)

def conjunction (lookUp : String → String) : Nat → (idle : Bool) → Evaluating Int
  | 0, _ => throw .expectingPrimary
  | fuel + 1, idle => do
    let a ← operand lookUp fuel idle
    let a ← operations lookUp fuel idle 1 a
    if (← get).token ≠ .operator "&&" then return a
    else
      advance
      let b ← conjunction lookUp fuel (idle || a = 0)
      return truth (a ≠ 0 && b ≠ 0)

def operations (lookUp : String → String) : Nat → (idle : Bool) → (least : Nat) → Int →
    Evaluating Int
  | 0, _, _, _ => throw .expectingPrimary
  | fuel + 1, idle, least, a => do
    match (← get).token with
    | .operator op =>
      match precedence? op with
      | none => return a
      | some p =>
        if p < least then return a
        else
          advance
          let b ← operand lookUp fuel idle
          let b ← operations lookUp fuel idle (p + 1) b
          let a ← if idle then pure b else apply op a b
          operations lookUp fuel idle least a
    | _ => return a

def operand (lookUp : String → String) : Nat → (idle : Bool) → Evaluating Int
  | 0, _ => throw .expectingPrimary
  | fuel + 1, idle => do
    match (← get).token with
    | .number n =>
      advance
      return n
    | .name name =>
      advance
      if idle then return 0 else variableValue lookUp name
    | .operator "(" =>
      advance
      let n ← assignment lookUp fuel idle
      unless (← get).token = .operator ")" do throw (.expecting ")")
      advance
      return n
    | .operator "+" =>
      advance
      operand lookUp fuel idle
    | .operator "-" =>
      advance
      return Integer.wrap (-(← operand lookUp fuel idle))
    | .operator "!" =>
      advance
      return truth ((← operand lookUp fuel idle) = 0)
    | .operator "~" =>
      advance
      return -(← operand lookUp fuel idle) - 1
    | _ => throw .expectingPrimary

end

/-- Evaluates a text where variables have values. The answer is its value or what stands in the way,
and the variables that were assigned to, in order. -/
def evaluate (lookUp : String → String) (text : List Char) :
    Except Obstacle Int × List (String × Int) :=
  let whole : Evaluating Int := do
    advance
    let n ← assignment lookUp (16 * text.length + 64) false
    unless (← get).token = .stop do throw .expectingEnd
    return n
  let (result, p) := whole.run.run { rest := text }
  (result, p.assigned.reverse)

def about (expression text : String) : String :=
  "arithmetic expression: " ++ text ++ ": \"" ++ expression ++ "\""

def Obstacle.message (expression : String) : Obstacle → String
  | .notANumber text => "Illegal number: " ++ text
  | .expectingPrimary => about expression "expecting primary"
  | .expectingEnd => about expression "expecting EOF"
  | .expecting token => about expression ("expecting '" ++ token ++ "'")
  | .divisionByZero => about expression "division by zero"
  | .overflow => ""

end Conformance.Shell.Arithmetic

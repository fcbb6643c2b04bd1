import Conformance.Floating

/-! # Reading floating point numbers

A number is decimal or hexadecimal, with a point and an exponent if need be, or it is a name for an
infinity or for what is no number. White space and a sign may come first.
-/

namespace Conformance.Floating

def isSpace (c : Char) : Bool := c = ' ' || ('\t' ≤ c && c ≤ '\r')

def digitValue? (base : Nat) (c : Char) : Option Nat :=
  let value := if c.isDigit then c.toNat - 48
    else if 'a' ≤ c && c ≤ 'f' then c.toNat - 87
    else if 'A' ≤ c && c ≤ 'F' then c.toNat - 55
    else 16
  if value < base then some value else none

def readDigits (base : Nat) : List Char → Nat → Nat → Nat × Nat × List Char
  | [], value, count => (value, count, [])
  | c :: rest, value, count =>
    match digitValue? base c with
    | some d => readDigits base rest (value * base + d) (count + 1)
    | none => (value, count, c :: rest)

/-- The digits in front of a text, before and after a point: their value, how many there are, how
many stand after the point, and what follows. -/
def readFraction (base : Nat) (text : List Char) : Nat × Nat × Nat × List Char :=
  let (whole, count, rest) := readDigits base text 0 0
  match rest with
  | '.' :: after =>
    let (value, total, rest') := readDigits base after whole count
    if total = 0 then (0, 0, 0, text) else (value, total, total - count, rest')
  | _ => (whole, count, 0, rest)

def readExponent (letters : List Char) (text : List Char) : Int × List Char :=
  match text with
  | c :: rest =>
    if letters.contains c then
      let (negative, digits) := match rest with
        | '-' :: rest => (true, rest)
        | '+' :: rest => (false, rest)
        | _ => (false, rest)
      let (value, count, after) := readDigits 10 digits 0 0
      if count = 0 then (0, text) else (if negative then -(value : Int) else value, after)
    else (0, text)
  | [] => (0, [])

structure Reading where
  value : Floating
  outOfRange : Bool := false
  rest : List Char
deriving Repr

/-- A number from its digits: `value * base ^ exponent`, where bases are powers of two or ten. The
magnitude of the exponent is bounded before the power is taken. -/
def ofDigits (w : Width) (negative : Bool) (value digits base : Nat) (exponent : Int) :
    Floating × Bool :=
  if value = 0 then (.finite negative 0 0, false)
  else if 40000 < exponent then (.infinite negative, true)
  else if exponent < -(40000 + 4 * digits : Nat) then (.finite negative 0 0, true)
  else if 0 ≤ exponent then ofRatio w negative (value * Nat.pow base exponent.toNat) 1
  else ofRatio w negative value (Nat.pow base (-exponent).toNat)

def afterWord? : (word text : List Char) → Option (List Char)
  | [], text => some text
  | _ :: _, [] => none
  | c :: word, d :: text => if c = d.toLower then afterWord? word text else none

/-- What follows the text in parentheses after the name for what is no number. -/
def afterNote (text : List Char) : List Char :=
  match text with
  | '(' :: rest =>
    match rest.dropWhile fun c => c.isAlphanum || c = '_' with
    | ')' :: rest => rest
    | _ => text
  | _ => text

def readMagnitude? (w : Width) (negative : Bool) (text : List Char) : Option Reading :=
  let decimal (_ : Unit) : Option Reading :=
    let (value, count, places, rest) := readFraction 10 text
    if count = 0 then none
    else
      let (exponent, rest) := readExponent ['e', 'E'] rest
      let (x, outOfRange) := ofDigits w negative value count 10 (exponent - places)
      some ⟨x, outOfRange, rest⟩
  match afterWord? "infinity".toList text, afterWord? "inf".toList text,
      afterWord? "nan".toList text, text with
  | some rest, _, _, _ => some ⟨.infinite negative, false, rest⟩
  | none, some rest, _, _ => some ⟨.infinite negative, false, rest⟩
  | _, _, some rest, _ => some ⟨.undefined negative, false, afterNote rest⟩
  | _, _, _, '0' :: x :: digits =>
    if x = 'x' || x = 'X' then
      let (value, count, places, rest) := readFraction 16 digits
      if count = 0 then decimal ()
      else
        let (exponent, rest) := readExponent ['p', 'P'] rest
        let (x, outOfRange) := ofDigits w negative value count 2 (exponent - 4 * places)
        some ⟨x, outOfRange, rest⟩
    else decimal ()
  | _, _, _, _ => decimal ()

def read? (w : Width) (text : List Char) : Option Reading :=
  match text.dropWhile isSpace with
  | '-' :: rest => readMagnitude? w true rest
  | '+' :: rest => readMagnitude? w false rest
  | rest => readMagnitude? w false rest

end Conformance.Floating

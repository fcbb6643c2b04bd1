import Conformance.Floating

/-! # Writing floating point numbers

A number is written with a fixed number of places, with an exponent, in the shorter of both ways, or
in hexadecimal. All digits are exact: the number is rounded once, to the digits that are shown, a
tie to the even neighbour.
-/

namespace Conformance.Floating

structure Layout where
  flags : List Char := []
  width : Nat := 0
  precision : Option Nat := none
  /-- The letter of the conversion: `f`, `e`, `g` or `a`, or a capital one. -/
  letter : Char
deriving DecidableEq, Repr

def Layout.has (l : Layout) (flag : Char) : Bool := l.flags.contains flag

/-- A text filled up to a width. Zeros go between the sign and the digits. -/
def pad (width : Nat) (left zeros : Bool) (sign body : List Char) : List Char :=
  let missing := width - (sign.length + body.length)
  if left then sign ++ body ++ List.replicate missing ' '
  else if zeros then sign ++ List.replicate missing '0' ++ body
  else List.replicate missing ' ' ++ sign ++ body

def signOf (flags : List Char) (negative : Bool) : List Char :=
  if negative then ['-']
  else if flags.contains '+' then ['+']
  else if flags.contains ' ' then [' ']
  else []

def timesTen (num den : Nat) (power : Int) : Nat :=
  if 0 ≤ power then Binary64.roundDiv (num * Nat.pow 10 power.toNat) den
  else Binary64.roundDiv num (den * Nat.pow 10 (-power).toNat)

def reaches (num den : Nat) (power : Int) : Bool :=
  if 0 ≤ power then den * Nat.pow 10 power.toNat ≤ num
  else den ≤ num * Nat.pow 10 (-power).toNat

def digitsOf (n : Nat) : List Char := (toString n).toList

def withPoint (places : Nat) (always : Bool) (n : Nat) : List Char :=
  let text := digitsOf n
  let text := List.replicate (places + 1 - text.length) '0' ++ text
  let whole := text.take (text.length - places)
  if places = 0 then (if always then whole ++ ['.'] else whole)
  else whole ++ '.' :: text.drop (text.length - places)

def fixed (places : Nat) (always : Bool) (num den : Nat) : List Char :=
  withPoint places always (timesTen num den places)

def decimalExponent (num den : Nat) : Int :=
  let guess : Int := (((num.log2 : Int) - den.log2) * 30103).tdiv 100000 - 2
  let above := (List.range 6).reverse.find? fun n => reaches num den (guess + (n : Nat))
  guess + (above.getD 0 : Nat)

/-- The digits of a fraction and the exponent of the first of them, with `places` digits after the
first. -/
def scientific (places : Nat) (num den : Nat) : Nat × Int :=
  if num = 0 then (0, 0)
  else
    let exponent := decimalExponent num den
    let n := timesTen num den (places - exponent)
    if Nat.pow 10 (places + 1) ≤ n then (Nat.pow 10 places, exponent + 1) else (n, exponent)

def exponentText (letter : Char) (exponent : Int) : List Char :=
  let digits := digitsOf exponent.natAbs
  letter :: (if exponent < 0 then '-' else '+') ::
    (List.replicate (2 - digits.length) '0' ++ digits)

def withoutZeros (text : List Char) : List Char :=
  if text.contains '.' then
    match text.reverse.dropWhile (· = '0') with
    | '.' :: rest => rest.reverse
    | rest => rest.reverse
  else text

/-- A fraction in the way that fits its size: with an exponent if that is small or not below the
precision. -/
def general (precision : Nat) (always : Bool) (letter : Char) (num den : Nat) : List Char :=
  let precision := max precision 1
  let (n, exponent) := scientific (precision - 1) num den
  let trim (text : List Char) : List Char := if always then text else withoutZeros text
  if exponent < -4 || precision ≤ exponent then
    trim (withPoint (precision - 1) always n) ++ exponentText letter exponent
  else trim (fixed (precision - 1 - exponent : Int).toNat always num den)

def hexDigits (count n : Nat) : List Char :=
  let text := Nat.toDigits 16 n
  let text := List.replicate (count - text.length) '0' ++ text
  (text.reverse.dropWhile (· = '0')).reverse

/-- A number in hexadecimal, with the bits of a width. The digit before the point holds `lead` of
them. -/
def hexadecimal (w : Width) (lead : Nat) (precision : Option Nat) (always : Bool)
    (magnitude : Nat) (exponent : Int) : List Char :=
  let places := (w.bits - lead + 3) / 4
  let text (first : Nat) (digits : List Char) (power : Int) : List Char :=
    '0' :: 'x' :: Nat.toDigits 16 first ++
      (if digits.isEmpty && !always then [] else '.' :: digits) ++
      'p' :: (if power < 0 then '-' else '+') :: digitsOf power.natAbs
  let filled (digits : List Char) : List Char :=
    digits ++ List.replicate (precision.getD 0 - digits.length) '0'
  if magnitude = 0 then text 0 (filled []) 0
  else
    let shift : Nat := if lead = 1 && exponent = w.least then 0 else w.bits - 1 - magnitude.log2
    let (normal, exponent) := (magnitude * Nat.pow 2 shift, exponent - shift)
    let shown := min (precision.getD places) places
    let unused := Nat.pow 16 (places - shown)
    let aligned := normal * Nat.pow 2 (4 * places + lead - w.bits)
    let rounded := Binary64.roundDiv aligned unused
    let first := rounded / Nat.pow 16 shown
    let digits := hexDigits shown (rounded % Nat.pow 16 shown)
    let power := exponent + (w.bits - lead : Nat)
    if Nat.pow 2 lead ≤ first && lead ≠ 1 then
      text (first / 16 + if lead = 4 then 0 else 1) (filled []) (power + 4)
    else text first (filled digits) power

def leadOf (w : Width) : Nat := if w.bits = 64 then 4 else 1

def format (w : Width) (l : Layout) (x : Floating) : List Char :=
  let left := l.has '-'
  let sign := signOf l.flags x.isNegative
  let always := l.has '#'
  let body (text : List Char) : List Char :=
    if l.letter.isUpper then text.map Char.toUpper else text
  match x with
  | .infinite _ => pad l.width left false sign (body "inf".toList)
  | .undefined _ => pad l.width left false sign (body "nan".toList)
  | .finite _ magnitude exponent =>
    let (num, den) := ratio magnitude exponent
    match l.letter.toLower with
    | 'a' =>
      let text := hexadecimal w (leadOf w) l.precision always magnitude exponent
      pad l.width left (l.has '0') (sign ++ body (text.take 2)) (body (text.drop 2))
    | 'e' =>
      let places := l.precision.getD 6
      let (n, power) := scientific places num den
      pad l.width left (l.has '0') sign
        (body (withPoint places always n ++ exponentText 'e' power))
    | 'g' =>
      pad l.width left (l.has '0') sign (body (general (l.precision.getD 6) always 'e' num den))
    | _ => pad l.width left (l.has '0') sign (body (fixed (l.precision.getD 6) always num den))

end Conformance.Floating

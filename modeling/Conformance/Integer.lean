import Conformance.Floating.Reader

/-! # Reading integers

Integers in decimal, octal or hexadecimal, and the ranges of machine words.
-/

namespace Conformance.Integer

def modulus : Nat := 0x10000000000000000

def greatest : Nat := 0x7FFFFFFFFFFFFFFF

def least : Int := -0x8000000000000000

def wrap (n : Int) : Int := Int.bmod n modulus

def unsigned (n : Int) : Nat := (n % modulus).toNat

/-- The natural number in front of a text. The base is ten, or it is told by the text: hexadecimal
after `0x`, octal after a zero. -/
def natural? (decimal : Bool) (text : List Char) : Option (Nat × List Char) :=
  let inBase (base : Nat) : Option (Nat × List Char) :=
    let (value, count, rest) := Floating.readDigits base text 0 0
    if count = 0 then none else some (value, rest)
  if decimal then inBase 10
  else match text with
    | '0' :: x :: rest =>
      if x = 'x' || x = 'X' then
        let (value, count, rest) := Floating.readDigits 16 rest 0 0
        if count = 0 then inBase 8 else some (value, rest)
      else inBase 8
    | _ => inBase 10

def read? (decimal : Bool) (text : List Char) : Option (Int × List Char) :=
  match text.dropWhile Floating.isSpace with
  | '-' :: rest => (natural? decimal rest).map fun (n, rest) => (-(n : Int), rest)
  | '+' :: rest => (natural? decimal rest).map fun (n, rest) => ((n : Int), rest)
  | rest => (natural? decimal rest).map fun (n, rest) => ((n : Int), rest)

end Conformance.Integer

/-! # Seconds in binary floating point

A duration is shown in seconds with one decimal. The value shown is not the exact duration but the
sum of two numbers with 53 significant bits: the whole seconds and the fraction, each rounded, and
the sum rounded again. All roundings go to the nearest value, a tie to the even neighbour.
-/

namespace Conformance.Binary64

/-- `num / den` rounded to the nearest natural number, a tie to the even one. -/
def roundDiv (num den : Nat) : Nat :=
  let quotient := num / den
  let twice := 2 * (num % den)
  if twice < den then quotient
  else if den < twice then quotient + 1
  else if quotient % 2 = 0 then quotient else quotient + 1

structure Ratio where
  num : Nat
  den : Nat
deriving DecidableEq, Repr

def roundLarge (num den : Nat) : (fuel step : Nat) → Ratio
  | 0, step => ⟨roundDiv num (den * step) * step, 1⟩
  | fuel + 1, step =>
    if num < den * step * 0x20000000000000 then ⟨roundDiv num (den * step) * step, 1⟩
    else roundLarge num den fuel (step * 2)

def roundSmall (num den : Nat) : (fuel scale : Nat) → Ratio
  | 0, scale => ⟨roundDiv (num * scale) den, scale⟩
  | fuel + 1, scale =>
    if den * 0x10000000000000 ≤ num * scale then ⟨roundDiv (num * scale) den, scale⟩
    else roundSmall num den fuel (scale * 2)

/-- A ratio rounded to 53 significant bits. Zero stays zero; the fuel covers every ratio between
`2 ^ -75` and `2 ^ 117`. -/
def round (r : Ratio) : Ratio :=
  if r.num = 0 then ⟨0, 1⟩
  else if r.den * 0x20000000000000 ≤ r.num then roundLarge r.num r.den 64 1
  else roundSmall r.num r.den 128 1

def seconds (secs nanos : Nat) : Ratio :=
  let whole := round ⟨secs, 1⟩
  let fraction := round ⟨nanos, 1000000000⟩
  round ⟨whole.num * fraction.den + fraction.num * whole.den, whole.den * fraction.den⟩

def onePlace (r : Ratio) : String :=
  let tenths := roundDiv (r.num * 10) r.den
  toString (tenths / 10) ++ "." ++ toString (tenths % 10)

end Conformance.Binary64

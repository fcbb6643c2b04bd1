import Conformance.Binary64

/-! # Floating point numbers

Numbers with a bounded number of significant bits, infinities, and what is no number. Results are
rounded to the nearest number of a width, a tie to the even neighbour.
-/

namespace Conformance

inductive Floating where
  | finite (negative : Bool) (magnitude : Nat) (exponent : Int)
  | infinite (negative : Bool)
  | undefined (negative : Bool)
deriving DecidableEq, Repr, Inhabited

namespace Floating

structure Width where
  bits : Nat
  least : Int
  /-- The exponent of the first power of two that is too large. -/
  limit : Int
deriving DecidableEq, Repr

def Width.double : Width := ⟨53, -1074, 1024⟩

def Width.extended : Width := ⟨64, -16445, 16384⟩

def powerOfTwo (exponent : Int) : Nat × Nat :=
  if 0 ≤ exponent then (Nat.pow 2 exponent.toNat, 1) else (1, Nat.pow 2 (-exponent).toNat)

def exponentOf (w : Width) (num den : Nat) : Int :=
  let guess : Int := (num.log2 : Int) - den.log2 - (w.bits - 1 : Nat)
  let (up, down) := powerOfTwo guess
  let exponent := if num * down < den * up * Nat.pow 2 (w.bits - 1) then guess - 1 else guess
  max exponent w.least

/-- A fraction as a number of a width, and whether it is out of range. -/
def ofRatio (w : Width) (negative : Bool) (num den : Nat) : Floating × Bool :=
  if num = 0 then (.finite negative 0 0, false)
  else
    let exponent := exponentOf w num den
    let (up, down) := powerOfTwo exponent
    let magnitude := Binary64.roundDiv (num * down) (den * up)
    if magnitude = 0 then (.finite negative 0 0, true)
    else if w.limit < (magnitude.log2 : Int) + 1 + exponent then (.infinite negative, true)
    else
      let isTiny := magnitude < Nat.pow 2 (w.bits - 1)
      let isExact := num * down % (den * up) = 0
      (.finite negative magnitude exponent, isTiny && !isExact)

def ofInt (n : Int) : Floating := .finite (n < 0) n.natAbs 0

def isNegative : Floating → Bool
  | .finite negative _ _ | .infinite negative | .undefined negative => negative

def ratio (magnitude : Nat) (exponent : Int) : Nat × Nat :=
  let (up, down) := powerOfTwo exponent
  (magnitude * up, down)

def scaled (negative : Bool) (magnitude : Nat) (exponent least : Int) : Int :=
  let n : Int := magnitude * Nat.pow 2 (exponent - least).toNat
  if negative then -n else n

def add (w : Width) : Floating → Floating → Floating
  | .finite s a e, .finite t b f =>
    let least := min e f
    let sum := scaled s a e least + scaled t b f least
    let (up, down) := powerOfTwo least
    (ofRatio w (if sum = 0 then s && t else sum < 0) (sum.natAbs * up) down).1
  | .undefined s, _ => .undefined s
  | _, .undefined s => .undefined s
  | .infinite s, .infinite t => if s = t then .infinite s else .undefined true
  | .infinite s, _ => .infinite s
  | _, .infinite s => .infinite s

def mul (w : Width) : Floating → Floating → Floating
  | .finite s a e, .finite t b f =>
    let (up, down) := powerOfTwo (e + f)
    (ofRatio w (s != t) (a * b * up) down).1
  | .undefined s, _ => .undefined s
  | _, .undefined s => .undefined s
  | .infinite s, .finite t b _ => if b = 0 then .undefined true else .infinite (s != t)
  | .finite s a _, .infinite t => if a = 0 then .undefined true else .infinite (s != t)
  | .infinite s, .infinite t => .infinite (s != t)

def lt : Floating → Floating → Bool
  | .finite s a e, .finite t b f =>
    let least := min e f
    scaled s a e least < scaled t b f least
  | .undefined _, _ | _, .undefined _ => false
  | .infinite s, .infinite t => s && !t
  | .infinite s, _ => s
  | _, .infinite t => !t

def isZero : Floating → Bool
  | .finite _ magnitude _ => magnitude = 0
  | _ => false

end Floating

end Conformance

/-! # UTF-8

Bytes are read as a list of parts: a character, or the longest run of bytes that starts like a
character and cannot be finished. A strict reader refuses a text with such a run; a lossy reader
shows it as one replacement character.
-/

namespace Conformance.Text

def encodeChar (c : Char) : List UInt8 :=
  let n := c.toNat
  if n < 0x80 then [n.toUInt8]
  else if n < 0x800 then [(0xC0 + n / 0x40).toUInt8, (0x80 + n % 0x40).toUInt8]
  else if n < 0x10000 then
    [(0xE0 + n / 0x1000).toUInt8, (0x80 + n / 0x40 % 0x40).toUInt8, (0x80 + n % 0x40).toUInt8]
  else
    [(0xF0 + n / 0x40000).toUInt8, (0x80 + n / 0x1000 % 0x40).toUInt8,
      (0x80 + n / 0x40 % 0x40).toUInt8, (0x80 + n % 0x40).toUInt8]

def encode (text : List Char) : List UInt8 := text.flatMap encodeChar

def byteLength (text : List Char) : Nat := text.foldl (fun n c => n + c.utf8Size) 0

/-- What a first byte announces: how many bytes follow, the bits it holds, and the range of the
second byte. The ranges exclude overlong forms, surrogates and codes above the last one. -/
structure Lead where
  following : Nat
  bits : Nat
  low : Nat
  high : Nat
deriving DecidableEq, Repr

def Lead.ofByte? (b : Nat) : Option Lead :=
  if b < 0xC2 then none
  else if b < 0xE0 then some ⟨1, b - 0xC0, 0x80, 0xBF⟩
  else if b < 0xF0 then
    some ⟨2, b - 0xE0, if b = 0xE0 then 0xA0 else 0x80, if b = 0xED then 0x9F else 0xBF⟩
  else if b < 0xF5 then
    some ⟨3, b - 0xF0, if b = 0xF0 then 0x90 else 0x80, if b = 0xF4 then 0x8F else 0xBF⟩
  else none

/-- Reads the bytes that follow a first byte. The answer is the code, or nothing when a byte is
missing or out of range, with the bytes not used. -/
def Lead.finish : (following code low high : Nat) → List UInt8 → Option Nat × List UInt8
  | 0, code, _, _, bytes => (some code, bytes)
  | _ + 1, _, _, _, [] => (none, [])
  | n + 1, code, low, high, b :: bytes =>
    if low ≤ b.toNat ∧ b.toNat ≤ high then
      Lead.finish n (code * 0x40 + (b.toNat - 0x80)) 0x80 0xBF bytes
    else (none, b :: bytes)

def firstPart (b : UInt8) (bytes : List UInt8) : Option Char × List UInt8 :=
  if b.toNat < 0x80 then (some (Char.ofNat b.toNat), bytes)
  else match Lead.ofByte? b.toNat with
    | none => (none, bytes)
    | some lead =>
      let (code, rest) := Lead.finish lead.following lead.bits lead.low lead.high bytes
      (code.map Char.ofNat, rest)

theorem Lead.finish_length (n code low high : Nat) (bytes : List UInt8) :
    (Lead.finish n code low high bytes).2.length ≤ bytes.length := by
  induction n generalizing code low high bytes with
  | zero => simp [Lead.finish]
  | succ n ih =>
    cases bytes with
    | nil => simp [Lead.finish]
    | cons b bytes =>
      unfold Lead.finish
      split
      · exact Nat.le_succ_of_le (ih _ _ _ bytes)
      · simp

theorem firstPart_length (b : UInt8) (bytes : List UInt8) :
    (firstPart b bytes).2.length ≤ bytes.length := by
  unfold firstPart
  split
  · simp
  · split
    · simp
    · exact Lead.finish_length ..

/-- The parts of a byte sequence: a character each, or `none` for a run that is no character. -/
def utf8Parts : List UInt8 → List (Option Char)
  | [] => []
  | b :: bytes => (firstPart b bytes).1 :: utf8Parts (firstPart b bytes).2
termination_by bytes => bytes.length
decreasing_by exact Nat.lt_succ_of_le (firstPart_length b bytes)

def decode? (bytes : List UInt8) : Option (List Char) :=
  (utf8Parts bytes).mapM id

/-- The text of a byte sequence, with one replacement character for each part that is none. -/
def decodeLossy (bytes : List UInt8) : List Char :=
  (utf8Parts bytes).map fun part => part.getD '\uFFFD'

end Conformance.Text

import Mathlib.Data.List.Basic
import Conformance.Json.Printer

/-! # Spellings of JSON values

The grammar of JSON: which texts spell a value. Blanks are free around values, a string has a choice
of escapes, and an integer has one spelling. The printed form of a value is one of its spellings.
-/

namespace Conformance.Json

/-! ## Grammar -/

/-- Blanks may stand around every value, name and mark. -/
def IsBlank (c : Char) : Prop := c = ' ' ∨ c = '\n' ∨ c = '\r' ∨ c = '\t'

instance : DecidablePred IsBlank := fun c =>
  inferInstanceAs (Decidable (c = ' ' ∨ c = '\n' ∨ c = '\r' ∨ c = '\t'))

def Blanks (text : List Char) : Prop := ∀ c ∈ text, IsBlank c

inductive Escape : Char → Char → Prop
  | quote : Escape '\"' '\"'
  | backslash : Escape '\\' '\\'
  | slash : Escape '/' '/'
  | backspace : Escape 'b' '\x08'
  | formFeed : Escape 'f' '\x0c'
  | lineFeed : Escape 'n' '\n'
  | carriageReturn : Escape 'r' '\r'
  | tab : Escape 't' '\t'

inductive HexDigit : Char → Nat → Prop
  | decimal {n : Nat} (small : n < 10) : HexDigit (Char.ofNat (48 + n)) n
  | lower {n : Nat} (small : n < 6) : HexDigit (Char.ofNat (97 + n)) (10 + n)
  | upper {n : Nat} (small : n < 6) : HexDigit (Char.ofNat (65 + n)) (10 + n)

/-- Four digits of base sixteen and their number. -/
inductive HexCode : List Char → Nat → Prop
  | digits {a b c d : Char} {x y z w : Nat} (first : HexDigit a x) (second : HexDigit b y)
      (third : HexDigit c z) (fourth : HexDigit d w) :
      HexCode [a, b, c, d] (((x * 16 + y) * 16 + z) * 16 + w)

/-- The inside of a string, and the characters that it spells. Control characters must be escaped.
The surrogates spell a character only in pairs. -/
inductive SpellsText : List Char → List Char → Prop
  | nil : SpellsText [] []
  | plain {c : Char} {text chars : List Char} (visible : 0x20 ≤ c.toNat) (quote : c ≠ '\"')
      (backslash : c ≠ '\\') (rest : SpellsText text chars) : SpellsText (c :: text) (c :: chars)
  | escape {letter c : Char} {text chars : List Char} (spells : Escape letter c)
      (rest : SpellsText text chars) : SpellsText ('\\' :: letter :: text) (c :: chars)
  | code {digits text chars : List Char} {n : Nat} (code : HexCode digits n)
      (basic : n < 0xD800 ∨ 0xE000 ≤ n) (rest : SpellsText text chars) :
      SpellsText ('\\' :: 'u' :: (digits ++ text)) (Char.ofNat n :: chars)
  | pair {first second text chars : List Char} {high low : Nat} (leads : HexCode first high)
      (trails : HexCode second low) (upper : 0xD800 ≤ high ∧ high < 0xDC00)
      (lower : 0xDC00 ≤ low ∧ low < 0xE000) (rest : SpellsText text chars) :
      SpellsText ('\\' :: 'u' :: (first ++ '\\' :: 'u' :: (second ++ text)))
        (Char.ofNat (0x10000 + (high - 0xD800) * 0x400 + (low - 0xDC00)) :: chars)

def Digits (text : List Char) : Prop := text ≠ [] ∧ ∀ c ∈ text, c.isDigit = true

structure Whole (text : List Char) : Prop where
  digits : Digits text
  leading : ∀ c rest, text ≠ '0' :: c :: rest

inductive Fraction : List Char → Prop
  | none : Fraction []
  | point {places : List Char} (digits : Digits places) : Fraction ('.' :: places)

inductive Exponent : List Char → Prop
  | none : Exponent []
  | bare {e : Char} {places : List Char} (letter : e = 'e' ∨ e = 'E') (digits : Digits places) :
      Exponent (e :: places)
  | signed {e sign : Char} {places : List Char} (letter : e = 'e' ∨ e = 'E')
      (mark : sign = '+' ∨ sign = '-') (digits : Digits places) : Exponent (e :: sign :: places)

/-- A number that is no integer: it has a fraction or an exponent, or is a negative zero. -/
inductive Decimal : List Char → Prop
  | scaled {sign whole fraction exponent : List Char} (signed : sign = [] ∨ sign = ['-'])
      (isWhole : Whole whole) (isFraction : Fraction fraction) (isExponent : Exponent exponent)
      (inexact : fraction ++ exponent ≠ []) : Decimal (sign ++ (whole ++ (fraction ++ exponent)))
  | negativeZero : Decimal ['-', '0']

/-- A place in an array: the text of a value between blanks. -/
structure Item where
  before : List Char
  text : List Char
  after : List Char
  value : Json
  blanksBefore : Blanks before
  blanksAfter : Blanks after

def Item.written (i : Item) : List Char := i.before ++ i.text ++ i.after

structure Member where
  before : List Char
  name : List Char
  chars : List Char
  after : List Char
  item : Item
  blanksBefore : Blanks before
  blanksAfter : Blanks after
  spells : SpellsText name chars

namespace Member

def written (m : Member) : List Char :=
  m.before ++ '\"' :: (m.name ++ '\"' :: (m.after ++ ':' :: m.item.written))

def field (m : Member) : String × Json := (String.ofList m.chars, m.item.value)

end Member

def commas (texts : List (List Char)) : List Char := [','].intercalate texts

inductive Spells : List Char → Json → Prop
  | null : Spells ['n', 'u', 'l', 'l'] .null
  | true : Spells ['t', 'r', 'u', 'e'] (.bool true)
  | false : Spells ['f', 'a', 'l', 's', 'e'] (.bool false)
  | integer (n : Int) : Spells (toString n).toList (.integer n)
  | decimal {text : List Char} (number : Decimal text) :
      Spells text (.decimal (String.ofList text))
  | string {text chars : List Char} (spells : SpellsText text chars) :
      Spells ('\"' :: (text ++ ['\"'])) (.string (String.ofList chars))
  | emptyArray {blanks : List Char} (blank : Blanks blanks) :
      Spells ('[' :: (blanks ++ [']'])) (.array [])
  | array {items : List Item} (inhabited : items ≠ [])
      (each : ∀ i ∈ items, Spells i.text i.value) :
      Spells ('[' :: (commas (items.map Item.written) ++ [']'])) (.array (items.map Item.value))
  | emptyObject {blanks : List Char} (blank : Blanks blanks) :
      Spells ('\x7b' :: (blanks ++ ['\x7d'])) (.object [])
  | object {members : List Member} (inhabited : members ≠ [])
      (each : ∀ m ∈ members, Spells m.item.text m.item.value) :
      Spells ('\x7b' :: (commas (members.map Member.written) ++ ['\x7d']))
        (.object (members.map Member.field))

theorem Spells.getLast?_object {text : List Char} {fields : List (String × Json)}
    (spells : Spells text (.object fields)) : text.getLast? = some '\x7d' := by
  cases spells with
  | emptyObject _ => rw [← List.cons_append, List.getLast?_concat]
  | object _ _ => rw [← List.cons_append, List.getLast?_concat]

/-- A text that holds one value between blanks. -/
def IsDocument (text : String) (v : Json) : Prop :=
  ∃ before spelling after, Blanks before ∧ Spells spelling v ∧ Blanks after ∧
    text.toList = before ++ (spelling ++ after)

/-! ## Commas -/

theorem commas_singleton (text : List Char) : commas [text] = text := by
  simp [commas]

theorem commas_cons {texts : List (List Char)} (text : List Char) (more : texts ≠ []) :
    commas (text :: texts) = text ++ ',' :: commas texts := by
  simp [commas, List.intercalate_cons_of_ne_nil, more]

theorem exists_commas_eq (text : List Char) (texts : List (List Char)) :
    ∃ more, commas (text :: texts) = text ++ more := by
  rcases texts with _ | ⟨next, texts⟩
  · exact ⟨[], by rw [commas_singleton, List.append_nil]⟩
  · exact ⟨_, commas_cons text (List.cons_ne_nil next texts)⟩

end Conformance.Json

import Conformance.Yaml.Node

/-! # Values of plain scalars

Which plain texts are nothing, truth values and integers. Integers are decimal, or have a base of
two, eight or sixteen; a decimal text with a needless zero in front is none.
-/

namespace Conformance.Yaml

def isNull (text : String) : Bool :=
  text = "null" || text = "Null" || text = "NULL" || text = "~"

def truth? (text : String) : Option Bool :=
  if text = "true" ∨ text = "True" ∨ text = "TRUE" then some true
  else if text = "false" ∨ text = "False" ∨ text = "FALSE" then some false
  else none

def digitValue? (base : Nat) (c : Char) : Option Nat := (Json.hexValue? c).filter (· < base)

def natural? (base : Nat) (digits : List Char) : Option Nat :=
  if digits.isEmpty then none
  else digits.foldlM (fun n c => (digitValue? base c).map (n * base + ·)) 0

def based? (text : List Char) : Option (Nat × List Char) :=
  match text with
  | '0' :: 'x' :: rest => some (16, rest)
  | '0' :: 'o' :: rest => some (8, rest)
  | '0' :: 'b' :: rest => some (2, rest)
  | _ => none

/-- Whether decimal digits have a zero in front that is not the number zero. -/
def hasNeedlessZero (digits : List Char) : Bool :=
  match digits with
  | '0' :: c :: rest => (c :: rest).all Char.isDigit
  | _ => false

def unsigned? (text : List Char) : Option Nat :=
  match based? text with
  | some (base, digits) => natural? base digits
  | none => if hasNeedlessZero text then none else natural? 10 text

/-- The value of an unsigned number with an optional plus sign. -/
def toNatural? (text : String) : Option Nat :=
  match text.toList with
  | '+' :: rest => unsigned? rest
  | chars => unsigned? chars

def toInteger? (text : String) : Option Int :=
  match text.toList with
  | '-' :: rest => (unsigned? rest).map fun n => -(n : Int)
  | '+' :: rest => (unsigned? rest).map Int.ofNat
  | chars => (unsigned? chars).map Int.ofNat

namespace Node

def standardTag (name : String) : String := "tag:yaml.org,2002:" ++ name

/-- Whether the text of a scalar is to be read as a value: it is plain, or it is a literal block
that says so by its tag. -/
def isValue (kind : String) (tag : Option String) (style : Style) : Bool :=
  style = .plain || (style = .literal && tag = some (standardTag kind))

def text? (node : Node) : Option String :=
  match node.target with
  | .scalar _ _ text => some text
  | _ => none

def natural? (node : Node) : Option Nat :=
  match node.target with
  | .scalar tag style text => if isValue "int" tag style then toNatural? text else none
  | _ => none

def integer? (node : Node) : Option Int :=
  match node.target with
  | .scalar tag style text => if isValue "int" tag style then toInteger? text else none
  | _ => none

def bool? (node : Node) : Option Bool :=
  match node.target with
  | .scalar tag style text => if isValue "bool" tag style then truth? text else none
  | _ => none

/-- The text of a scalar, or nothing for a plain scalar that stands for it. -/
def optionalText? (node : Node) : Option (Option String) :=
  match node.target with
  | .scalar tag style text =>
    if style ≠ .plain then some (some text)
    else match tag with
      | none => if text = "" || isNull text then some none else some (some text)
      | some tag =>
        if tag = standardTag "null" then if isNull text then some none else none
        else some (some text)
  | _ => none

/-- The items of a sequence. An empty plain scalar is an empty sequence. -/
def items? (node : Node) : Option (List Node) :=
  match node.target with
  | .sequence items => some items
  | .scalar _ .plain "" => some []
  | _ => none

def fields? (node : Node) : Option (List (String × Node)) :=
  match node.target with
  | .mapping pairs => pairs.mapM fun (key, value) => key.text?.map fun name => (name, value)
  | .scalar _ .plain "" => some []
  | _ => none

end Node

end Conformance.Yaml

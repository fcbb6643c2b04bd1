/-! # Patterns of the shell

An expanded word is a row of glyphs; some of them were quoted and stand for themselves. As a pattern
it is read into elements once, and matched against whole texts. Characters are bytes, and those from
128 on count as negative.
-/

namespace Conformance.Shell

inductive Glyph where
  | plain (c : Char)
  | escaped (c : Char)
  | mark
deriving DecidableEq, Repr

def textOf (word : List Glyph) : List Char :=
  word.filterMap fun g => match g with
    | .plain c | .escaped c => some c
    | .mark => none

def patternOf (word : List Glyph) : List Char :=
  word.flatMap fun g => match g with
    | .plain c => [c]
    | .escaped c => ['\\', c]
    | .mark => []

inductive BracketItem where
  | range (low high : Char)
  | named (name : String)
deriving DecidableEq, Repr

inductive Element where
  | exactly (c : Char)
  | anyOne
  | anyRun
  | oneOf (negated : Bool) (items : List BracketItem)
deriving DecidableEq, Repr

def classNames : List String :=
  ["alnum", "alpha", "blank", "cntrl", "digit", "graph", "lower", "print", "punct", "space",
    "upper", "xdigit"]

/-- Whether a character belongs to a named class. -/
def inClass (name : String) (c : Char) : Bool :=
  match name with
  | "alpha" => c.isAlpha
  | "digit" => c.isDigit
  | "alnum" => c.isAlphanum
  | "upper" => c.isUpper
  | "lower" => c.isLower
  | "xdigit" => c.isDigit || "abcdefABCDEF".toList.contains c
  | "blank" => c = ' ' || c = '\t'
  | "space" => c = ' ' || ('\t' ≤ c && c ≤ '\r')
  | "cntrl" => c < ' ' || c = '\x7f'
  | "print" => ' ' ≤ c && c < '\x7f'
  | "graph" => ' ' < c && c < '\x7f'
  | "punct" => ' ' < c && c < '\x7f' && !c.isAlphanum
  | _ => false

def rank (c : Char) : Int := if c.toNat < 128 then c.toNat else (c.toNat : Int) - 256

def BracketItem.holds (c : Char) : BracketItem → Bool
  | .range low high => rank low ≤ rank c && rank c ≤ rank high
  | .named name => inClass name c

def readClass? (text : List Char) : Option (String × List Char) :=
  classNames.findSome? fun name =>
    let written := ':' :: name.toList ++ [':', ']']
    if written.isPrefixOf text then some (name, text.drop written.length) else none

/-- The items up to the closing bracket, and what follows it; nothing without such a bracket. A
bracket that comes first is an item. -/
def readBracket : Nat → (isFirst : Bool) → List Char → Option (List BracketItem × List Char)
  | 0, _, _ => none
  | _ + 1, _, [] => none
  | fuel + 1, isFirst, c :: rest =>
    let followedBy (item : BracketItem) (rest : List Char) :
        Option (List BracketItem × List Char) :=
      (readBracket fuel false rest).map fun (items, rest) => (item :: items, rest)
    if c = ']' && !isFirst then some ([], rest)
    else
      match if c = '[' then readClass? rest else none with
      | some (name, rest) => followedBy (.named name) rest
      | none =>
        let (c, rest) := if c = '\\' then (rest.headD '\\', rest.drop 1) else (c, rest)
        match rest with
        | '-' :: '\\' :: high :: after => followedBy (.range c high) after
        | '-' :: high :: after =>
          if high = ']' then followedBy (.range c c) rest else followedBy (.range c high) after
        | _ => followedBy (.range c c) rest

/-- The elements of a pattern. A bracket that is never closed stands for itself. -/
def readElements : Nat → List Char → List Element
  | 0, _ => []
  | _ + 1, [] => []
  | _ + 1, ['\\'] => [.exactly '\\']
  | fuel + 1, '\\' :: c :: rest => .exactly c :: readElements fuel rest
  | fuel + 1, '*' :: rest => .anyRun :: readElements fuel rest
  | fuel + 1, '?' :: rest => .anyOne :: readElements fuel rest
  | fuel + 1, '[' :: rest =>
    let negated := rest.head? = some '!'
    let body := if negated then rest.drop 1 else rest
    match readBracket (body.length + 1) true body with
    | some (items, rest) => .oneOf negated items :: readElements fuel rest
    | none => .exactly '[' :: readElements fuel rest
  | fuel + 1, c :: rest => .exactly c :: readElements fuel rest

def elements (pattern : List Char) : List Element := readElements (pattern.length + 1) pattern

def fits : List Element → List Char → Bool
  | [], text => text.isEmpty
  | .exactly c :: rest, text =>
    match text with
    | d :: text => c = d && fits rest text
    | [] => false
  | .anyOne :: rest, text =>
    match text with
    | _ :: text => fits rest text
    | [] => false
  | .oneOf negated items :: rest, text =>
    match text with
    | d :: text => (items.any (BracketItem.holds d) != negated) && fits rest text
    | [] => false
  | .anyRun :: rest, text => fitsSome rest text
where
  fitsSome (rest : List Element) : List Char → Bool
    | [] => fits rest []
    | c :: text => fits rest (c :: text) || fitsSome rest text

/-- A text without its shortest or longest beginning or end that fits. What stands behind a zero byte
is not looked at. -/
def cut (pattern : List Element) (atFront longest : Bool) (text : List Char) : List Char :=
  let lengths := List.range (text.length + 1)
  let lengths := if longest = atFront then lengths.reverse else lengths
  let isFitting (n : Nat) : Bool :=
    fits pattern ((if atFront then text.take n else text.drop n).takeWhile (· ≠ '\x00'))
  match lengths.find? isFitting with
  | some n => if atFront then text.drop n else text.take n
  | none => text

end Conformance.Shell

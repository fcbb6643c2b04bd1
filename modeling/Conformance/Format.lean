import Conformance.Floating.Printer
import Conformance.Integer

/-! # Formatted output

The texts that `printf` and `echo` write. A format is gone through again as long as arguments are
left. The shell and the stand-alone program know different escapes and conversions, and they
complain about different things.
-/

namespace Conformance.Format

/-- Who writes: the shell itself, or the program `printf` or `echo` on its own. -/
inductive Dialect where
  | shell | program | echo
deriving DecidableEq, Repr

inductive Problem where
  | notNumeric (argument : String)
  | notWhollyNumeric (argument : String)
  | outOfRange (argument : String)
  | afterCharacter (text : String)
  | excessArguments (first : String)
  | invalidDirective (directive : String)
  | missingDirective
  | missingDigits
  | noCharacter (escape : String)
  | invalidWidth (argument : String)
  | invalidPrecision (argument : String)
deriving DecidableEq, Repr

def Problem.isFatal : Problem → Bool
  | .invalidDirective _ | .missingDirective | .missingDigits | .noCharacter _ | .invalidWidth _
  | .invalidPrecision _ => true
  | _ => false

def Problem.isWarning : Problem → Bool
  | .afterCharacter _ | .excessArguments _ => true
  | _ => false

inductive Event where
  | text (text : List Char)
  | problem (p : Problem)
deriving DecidableEq, Repr

/-! ## Escapes -/

def letter? (d : Dialect) (c : Char) : Option Char :=
  match c with
  | 'a' => some '\x07'
  | 'b' => some '\x08'
  | 'e' => some '\x1b'
  | 'f' => some '\x0c'
  | 'n' => some '\n'
  | 'r' => some '\r'
  | 't' => some '\t'
  | 'v' => some '\x0b'
  | '\\' => some '\\'
  | '\"' => if d = .program then some '\"' else none
  | _ => none

def digitsUpTo (base : Nat) : (limit : Nat) → List Char → Nat × Nat × List Char
  | 0, text => (0, 0, text)
  | limit + 1, text =>
    match text with
    | [] => (0, 0, [])
    | c :: rest =>
      match Floating.digitValue? base c with
      | none => (0, 0, text)
      | some d =>
        let (value, count, after) := digitsUpTo base limit rest
        (d * Nat.pow base count + value, count + 1, after)

inductive Escape where
  | shown (text rest : List Char)
  | stop
  | wrong (p : Problem)

def isSurrogate (code : Nat) : Bool := 0xD800 ≤ code && code ≤ 0xDFFF

/-- The character of a code, or its name if plain text does not have it. -/
def codePoint (letter : Char) (digits rest : List Char) (code : Nat) : Escape :=
  if isSurrogate code then
    .wrong (.noCharacter (String.ofList ('\\' :: letter :: digits.map Char.toLower)))
  else if code < 128 then .shown [Char.ofNat code] rest
  else .shown ('\\' :: letter :: digits.map Char.toUpper) rest

def readEscape (d : Dialect) (text : List Char) : Escape :=
  match text with
  | [] => .shown ['\\'] []
  | c :: rest =>
    match letter? d c with
    | some x => .shown [x] rest
    | none =>
      let (octal, count, after) := digitsUpTo 8 3 text
      if 0 < count then .shown [Char.ofNat (octal % 256)] after
      else if d = .shell then .shown ['\\'] text
      else if c = 'x' then
        let (value, count, after) := digitsUpTo 16 2 rest
        if 0 < count then .shown [Char.ofNat value] after
        else if d = .echo then .shown ['\\', c] rest
        else .wrong .missingDigits
      else if d = .program && (c = 'u' || c = 'U') then
        let size := if c = 'u' then 4 else 8
        let (value, count, after) := digitsUpTo 16 size rest
        if count < size then .wrong .missingDigits
        else codePoint c (rest.take size) after value
      else if c = 'c' then .stop
      else .shown ['\\', c] rest

def withoutZero (text : List Char) : List Char :=
  match text with
  | '0' :: c :: after => if (Floating.digitValue? 8 c).isSome then c :: after else text
  | _ => text

structure Unescaped where
  text : List Char
  stops : Bool := false
  problem : Option Problem := none

def unescape (d : Dialect) : Nat → List Char → List (List Char) → Unescaped
  | 0, _, shown => { text := shown.reverse.flatten }
  | _ + 1, [], shown => { text := shown.reverse.flatten }
  | fuel + 1, '\\' :: rest, shown =>
    match rest, readEscape d (withoutZero rest) with
    | 'c' :: _, _ => { text := shown.reverse.flatten, stops := true }
    | _, .stop => { text := shown.reverse.flatten, stops := true }
    | _, .wrong p => { text := shown.reverse.flatten, stops := true, problem := some p }
    | _, .shown text rest => unescape d fuel rest (text :: shown)
  | fuel + 1, c :: rest, shown => unescape d fuel rest ([c] :: shown)

/-! ## Directives -/

inductive Amount where
  | given (n : Nat)
  | fromArgument
deriving DecidableEq, Repr

structure Layout where
  flags : List Char := []
  width : Option Amount := none
  precision : Option Amount := none
deriving DecidableEq, Repr

inductive Piece where
  | text (text : List Char)
  | value (layout : Layout) (conversion : Char)
  | stop
  | problem (p : Problem)
deriving DecidableEq, Repr

/-- A number or an asterisk in front of a text. -/
def readAmount (text : List Char) : Option Amount × List Char :=
  match text with
  | '*' :: rest => (some .fromArgument, rest)
  | _ =>
    let (n, count, rest) := Floating.readDigits 10 text 0 0
    (if count = 0 then none else some (.given n), rest)

def flagsOf : Dialect → List Char
  | .shell => "#-+ 0".toList
  | _ => "#-+ 0'I".toList

/-- The conversions of a dialect under a layout. -/
def allows (d : Dialect) (l : Layout) (c : Char) : Bool :=
  match d with
  | .shell => "bcsdiouxXaAeEfFgG".toList.contains c
  | _ =>
    let isPlain : Bool := l.flags.isEmpty && l.width.isNone && l.precision.isNone
    if c = 'b' || c = 'q' then isPlain
    else
      "csdiouxXaAeEfFgG".toList.contains c &&
        !(l.flags.contains '\'' && "aAceEosuxX".toList.contains c) &&
        !(l.flags.contains '#' && "cdisu".toList.contains c) &&
        !(l.flags.contains '0' && "cs".toList.contains c) &&
        !(l.flags.contains 'I' && "aAceEosuxX".toList.contains c) &&
        !(l.precision.isSome && c = 'c')

/-- Reads what follows a percent sign. A stand-alone program passes over the sizes of numbers. -/
def readDirective (d : Dialect) (text : List Char) : Piece × List Char :=
  let flags := text.takeWhile fun c => (flagsOf d).contains c
  let (width, rest) := readAmount (text.drop flags.length)
  let (precision, rest) := match rest with
    | '.' :: rest =>
      let (amount, rest) := readAmount rest
      (some (amount.getD (.given 0)), rest)
    | _ => (none, rest)
  let rest := rest.dropWhile fun c => d = .program && "hlLjzt".toList.contains c
  let layout : Layout := ⟨flags, width, precision⟩
  match rest with
  | c :: after =>
    if allows d layout c then (.value layout c, after)
    else
      let directive := '%' :: text.take (text.length - after.length)
      (.problem (.invalidDirective (String.ofList directive)), after)
  | [] =>
    (.problem (if d = .shell then .missingDirective
      else .invalidDirective (String.ofList ('%' :: text))), [])

def readPieces (d : Dialect) : Nat → List Char → List Piece
  | 0, _ => []
  | _ + 1, [] => []
  | fuel + 1, '%' :: '%' :: rest => .text ['%'] :: readPieces d fuel rest
  | fuel + 1, '%' :: rest =>
    let (piece, rest) := readDirective d rest
    piece :: readPieces d fuel rest
  | fuel + 1, '\\' :: rest =>
    match readEscape d rest with
    | .shown text rest => .text text :: readPieces d fuel rest
    | .stop => [.stop]
    | .wrong p => [.problem p]
  | fuel + 1, c :: rest => .text [c] :: readPieces d fuel rest

/-! ## Conversions -/

/-- What is being written: the arguments that are left, what has happened, newest first, and whether
the output has stopped. -/
structure Progress where
  arguments : List String
  events : List Event := []
  stopped : Bool := false

def nextArgument : StateM Progress (Option String) := do
  let p ← get
  match p.arguments with
  | [] => return none
  | argument :: rest =>
    set { p with arguments := rest }
    return some argument

def meet (problem : Problem) : StateM Progress Unit :=
  modify fun p => { p with
    events := .problem problem :: p.events
    stopped := p.stopped || problem.isFatal }

def emit (text : List Char) : StateM Progress Unit :=
  modify fun p => { p with events := .text text :: p.events }

/-- The code of the character after a quote, if an argument is one. -/
def characterCode? (d : Dialect) (text : List Char) : Option (Nat × List Char) :=
  match d, text with
  | .shell, '\'' :: rest | .shell, '\"' :: rest => some ((rest.head?.map Char.toNat).getD 0, [])
  | .program, '\'' :: c :: rest | .program, '\"' :: c :: rest => some (c.toNat, rest)
  | _, _ => none

def checkRest (argument : String) (isNumber : Bool) (rest : List Char) (outOfRange : Bool) :
    StateM Progress Unit := do
  if argument.isEmpty then return
  else if !isNumber then meet (.notNumeric argument)
  else if !rest.isEmpty then
    meet (.notWhollyNumeric argument)
  else if outOfRange then meet (.outOfRange argument)

/-- The integer that an argument stands for. A quote before a character stands for its code. -/
def integerOf (d : Dialect) (signed : Bool) : Option String → StateM Progress Int
  | none => return 0
  | some argument =>
    match characterCode? d argument.toList with
    | some (code, rest) => do
      unless rest.isEmpty do meet (.afterCharacter (String.ofList rest))
      return code
    | none => do
      match Integer.read? false argument.toList with
      | none =>
        checkRest argument false [] false
        return 0
      | some (n, rest) =>
        let (low, high) : Int × Int :=
          if signed then (Integer.least, Integer.greatest)
          else (1 - Integer.modulus, Integer.modulus - 1)
        let isOut := n < low || high < n
        if d = .program && isOut then meet (.outOfRange argument)
        else checkRest argument true rest isOut
        if !isOut then return n
        else return if signed then max low (min n high) else high

def floatingOf (d : Dialect) (w : Floating.Width) : Option String → StateM Progress Floating
  | none => return .ofInt 0
  | some argument =>
    match characterCode? d argument.toList with
    | some (code, rest) => do
      unless rest.isEmpty do meet (.afterCharacter (String.ofList rest))
      return .ofInt code
    | none => do
      match Floating.read? w argument.toList with
      | none =>
        checkRest argument false [] false
        return .ofInt 0
      | some r =>
        if d = .program && r.outOfRange then meet (.outOfRange argument)
        else checkRest argument true r.rest r.outOfRange
        return r.value

def digitsOf (base n : Nat) (upper : Bool) : List Char :=
  let text := Nat.toDigits base n
  if upper then text.map Char.toUpper else text

def integerText (flags : List Char) (width : Nat) (precision : Option Nat) (left : Bool)
    (conversion : Char) (n : Int) : List Char :=
  let signed := conversion = 'd' || conversion = 'i'
  let base := match conversion with
    | 'o' => 8
    | 'x' | 'X' => 16
    | _ => 10
  let size := if signed then n.natAbs else Integer.unsigned n
  let digits := if size = 0 && precision = some 0 then []
    else digitsOf base size (conversion = 'X')
  let digits := List.replicate (precision.getD 1 - digits.length) '0' ++ digits
  let marked := flags.contains '#'
  let digits := if marked && conversion = 'o' && digits.head? ≠ some '0' then '0' :: digits
    else digits
  let sign := if signed then Floating.signOf flags (n < 0)
    else if marked && size ≠ 0 && base = 16 then ['0', conversion]
    else []
  Floating.pad width left (flags.contains '0' && precision.isNone) sign digits

def greatestWidth : Int := 2147483647

def amount (d : Dialect) (tooLarge : String → Problem) : Option Amount →
    StateM Progress (Option Int)
  | none => return none
  | some (.given n) => return some n
  | some .fromArgument => do
    match ← nextArgument with
    | none => return some 0
    | some argument =>
      let n ← integerOf d true (some argument)
      if d = .program && (greatestWidth < n || n < -greatestWidth - 1) then
        meet (tooLarge argument)
      return some (Int.bmod n 0x100000000)

def widthOf : Dialect → Floating.Width
  | .shell => .double
  | _ => .extended

/-- The text of the next argument under a conversion, and whether the output stops after it. -/
def convert (d : Dialect) (quoted : String → String) (layout : Layout) (conversion : Char) :
    StateM Progress (List Char × Bool) := do
  let width ← amount d .invalidWidth layout.width
  let precision := (← amount d .invalidPrecision layout.precision).bind fun n =>
    if n < 0 then none else some n.toNat
  let left := layout.flags.contains '-' || width.any (· < 0)
  let flags := if width.any (· < 0) then '-' :: layout.flags else layout.flags
  let width := (width.getD 0).natAbs
  let argument ← nextArgument
  let text := (argument.getD "").toList
  let padded (text : List Char) : List Char := Floating.pad width left false [] text
  match conversion with
  | 's' => return (padded (text.take (precision.getD text.length)), false)
  | 'q' => return ((quoted (argument.getD "")).toList, false)
  | 'b' =>
    let u := unescape d (text.length + 1) text []
    match u.problem with
    | some p =>
      emit u.text
      meet p
      return ([], true)
    | none => return (padded (u.text.take (precision.getD u.text.length)), u.stops)
  | 'c' => return (padded (if text.isEmpty then ['\x00'] else text.take 1), false)
  | _ =>
    if "aAeEfFgG".toList.contains conversion then
      let x ← floatingOf d (widthOf d) argument
      return (Floating.format (widthOf d) { flags, width, precision, letter := conversion } x,
        false)
    else
      let n ← integerOf d (conversion = 'd' || conversion = 'i') argument
      return (integerText layout.flags width precision left conversion n, false)

def writePieces (d : Dialect) (quoted : String → String) : List Piece → StateM Progress Unit
  | [] => return
  | .text text :: rest => do
    emit text
    writePieces d quoted rest
  | .value layout conversion :: rest => do
    let (text, stops) ← convert d quoted layout conversion
    if !(← get).stopped then
      emit text
      if stops then modify fun p => { p with stopped := true } else writePieces d quoted rest
  | .stop :: _ => modify fun p => { p with stopped := true }
  | .problem problem :: _ => do
    meet problem
    modify fun p => { p with stopped := true }

/-- Writes pieces again as long as they use up arguments. -/
def repeatPieces (d : Dialect) (quoted : String → String) (pieces : List Piece) :
    Nat → StateM Progress Unit
  | 0 => return
  | fuel + 1 => do
    let before := (← get).arguments.length
    writePieces d quoted pieces
    let p ← get
    if !p.stopped && !p.arguments.isEmpty then
      if p.arguments.length < before then repeatPieces d quoted pieces fuel
      else meet (.excessArguments (p.arguments.headD ""))

def printf (d : Dialect) (quoted : String → String) (format : String) (arguments : List String) :
    List Event :=
  let pieces := readPieces d (format.length + 1) format.toList
  let (_, p) := (repeatPieces d quoted pieces (arguments.length + 1)).run { arguments }
  p.events.reverse

/-! ## Echoes -/

/-- What `echo` of the shell writes: escapes are replaced, and an escape may stop the output. -/
def echo (arguments : List String) : List Char :=
  let (arguments, ended) := match arguments with
    | "-n" :: rest => (rest, [])
    | _ => (arguments, ['\n'])
  let text := (String.intercalate " " arguments).toList
  let u := unescape .shell (text.length + 1) text []
  if u.stops then u.text else u.text ++ ended

def isEchoOption (word : String) : Bool :=
  match word.toList with
  | '-' :: c :: rest => (c :: rest).all fun c => c = 'n' || c = 'e' || c = 'E'
  | _ => false

/-- What `echo` as a program of its own writes: escapes are replaced only on request. -/
def echoProgram (arguments : List String) : List Char :=
  let options := arguments.takeWhile isEchoOption
  let letters := options.flatMap fun word => word.toList.drop 1
  let escapes := letters.reverse.find? (fun c => c ≠ 'n') = some 'e'
  let text := (String.intercalate " " (arguments.drop options.length)).toList
  let u : Unescaped := if escapes then unescape .echo (text.length + 1) text [] else { text }
  if u.stops || letters.contains 'n' then u.text else u.text ++ ['\n']

end Conformance.Format

import Conformance.Utility.Message

/-! # Options of utilities

An option is a letter after a dash or a word after two dashes; it may take an argument. Words may be
shortened as long as they stay clear. Options may follow operands, unless a utility wants them in
front.
-/

namespace Conformance.Utility

open Conformance.System

inductive Expects where
  | nothing | argument | perhaps
deriving DecidableEq, Repr

/-- An option: its letter or word, the key that it is known by, and what it takes. -/
structure OptionForm (α : Type) where
  spelling : α
  key : Char
  expects : Expects := .nothing
deriving Repr

structure OptionSet where
  letters : List (OptionForm Char) := []
  words : List (OptionForm String) := []
  inFront : Bool := false
  isOperand : String → Bool := fun _ => false

inductive Argument where
  | option (key : Char) (value : Option String)
  | operand (text : String)
  | fault (message : String)
deriving DecidableEq, Repr

namespace OptionSet

def helpWords : List (OptionForm String) := [⟨"help", 'H', .nothing⟩, ⟨"version", 'V', .nothing⟩]

def readLetters (o : OptionSet) : List Char → List String → List Argument × List String
  | [], args => ([], args)
  | c :: rest, args =>
    match o.letters.find? fun form => form.spelling = c with
    | none => ([.fault ("invalid option -- '" ++ String.singleton c ++ "'")], args)
    | some form =>
      match form.expects, rest, args with
      | .argument, [], [] =>
        ([.fault ("option requires an argument -- '" ++ String.singleton c ++ "'")], [])
      | .argument, [], arg :: args => ([.option form.key (some arg)], args)
      | .argument, rest, args => ([.option form.key (some (String.ofList rest))], args)
      | .perhaps, [], args => ([.option form.key none], args)
      | .perhaps, rest, args => ([.option form.key (some (String.ofList rest))], args)
      | .nothing, rest, args =>
        let (more, args) := o.readLetters rest args
        (.option form.key none :: more, args)

def findWord (o : OptionSet) (word whole : String) : Except String (OptionForm String) :=
  let words := o.words ++ helpWords
  match words.find? fun form => form.spelling = word with
  | some form => .ok form
  | none =>
    match words.filter fun form => form.spelling.startsWith word with
    | [] => .error ("unrecognized option '" ++ whole ++ "'")
    | [form] => .ok form
    | form :: others =>
      if others.all fun other => other.key = form.key && other.expects = form.expects then .ok form
      else
        let names := (form :: others).map fun form => " '--" ++ form.spelling ++ "'"
        .error ("option '" ++ whole ++ "' is ambiguous; possibilities:" ++ String.join names)

def readWord (o : OptionSet) (whole : String) (args : List String) : Argument × List String :=
  let chars := whole.toList.drop 2
  let word := String.ofList (chars.takeWhile (· ≠ '='))
  let value : Option String := match chars.dropWhile (· ≠ '=') with
    | [] => none
    | _ :: value => some (String.ofList value)
  match o.findWord word whole with
  | .error message => (.fault message, args)
  | .ok form =>
    match form.expects, value, args with
    | .nothing, some _, args =>
      (.fault ("option '--" ++ form.spelling ++ "' doesn't allow an argument"), args)
    | .argument, none, [] =>
      (.fault ("option '--" ++ form.spelling ++ "' requires an argument"), [])
    | .argument, none, arg :: args => (.option form.key (some arg), args)
    | _, value, args => (.option form.key value, args)

/-- The arguments of a utility in order, as options and operands. The fuel bounds their number. -/
def readFrom (o : OptionSet) : Nat → List String → List Argument
  | 0, _ => []
  | _ + 1, [] => []
  | fuel + 1, arg :: args =>
    let operands (args : List String) : List Argument := args.map .operand
    match arg.toList with
    | '-' :: '-' :: [] => operands args
    | '-' :: c :: rest =>
      if o.isOperand arg then operands (arg :: args)
      else if c = '-' then
        let (argument, args) := o.readWord arg args
        argument :: o.readFrom fuel args
      else
        let (arguments, args) := o.readLetters (c :: rest) args
        arguments ++ o.readFrom fuel args
    | _ => if o.inFront then operands (arg :: args) else .operand arg :: o.readFrom fuel args

def read (o : OptionSet) (args : List String) : List Argument := o.readFrom args.length args

end OptionSet

def operandsOf (arguments : List Argument) : List String :=
  arguments.filterMap fun argument => match argument with
    | .operand text => some text
    | _ => none

def faultOf? (arguments : List Argument) : Option String :=
  arguments.findSome? fun argument => match argument with
    | .fault message => some message
    | _ => none

def asksFor (arguments : List Argument) (key : Char) : Bool :=
  arguments.any fun argument => match argument with
    | .option k _ => k = key
    | _ => false

end Conformance.Utility

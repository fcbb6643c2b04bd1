import Conformance.Floating.Reader
import Conformance.Utility.Options

/-! # Pauses

The program that waits for the sum of the times it is given. A time is a number of seconds, or of
the unit that a letter after it names.
-/

namespace Conformance.Utility.Sleep

open Conformance.System

def unit? : List Char → Option Nat
  | [] | ['s'] => some 1
  | ['m'] => some 60
  | ['h'] => some 3600
  | ['d'] => some 86400
  | _ => none

inductive Span where
  | micros (n : Nat)
  | endless
deriving DecidableEq, Repr

def span? (text : String) : Option Span :=
  match Floating.read? .double text.toList with
  | none => none
  | some r =>
    match unit? r.rest, r.value with
    | none, _ | _, .undefined _ => none
    | some _, .infinite negative => if negative then none else some .endless
    | some unit, .finite negative magnitude exponent =>
      if negative && magnitude ≠ 0 then none
      else
        let (num, den) := Floating.ratio magnitude exponent
        some (.micros ((num * unit * 1000000 + (den - 1)) / den))

def total (spans : List Span) : Option Nat :=
  spans.foldl (fun sum span => match sum, span with
    | some n, .micros m => some (n + m)
    | _, _ => none) (some 0)

def run (name : String) (args : List String) : Action Nat := do
  let arguments := ({} : OptionSet).read args
  match faultOf? arguments with
  | some message => refuse name message
  | none =>
    if asksFor arguments 'H' || asksFor arguments 'V' then return 0
    let operands := operandsOf arguments
    if operands.isEmpty then refuse name "missing operand"
    else
      let spans := operands.map fun text => (text, span? text)
      let wrong := spans.filter fun entry => entry.2.isNone
      if wrong.isEmpty then
        let _ ← Action.call (.sleep (total (spans.filterMap Prod.snd)))
        return 0
      else
        wrong.forM fun entry => complain name ("invalid time interval " ++ quote entry.1)
        let _ ← say 2 ("Try '" ++ name ++ " --help' for more information.\n")
        return 1

end Conformance.Utility.Sleep

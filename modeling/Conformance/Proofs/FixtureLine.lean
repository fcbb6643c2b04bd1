import Conformance.Fixture
import Conformance.Proofs.Directive

/-! # What a line of a fixture does

A line adds what its directive asks for, and counts it. A compile error that is tagged for another
language adds nothing, and nothing else is looked for in its line.
-/

namespace Conformance.Fixture

open Conformance.Text Conformance.Directive

inductive LineStep (options : ReadingOptions) (number : Nat) (line : List Char)
    (e : Expectations) : Expectations → Prop where
  | output {text : String} (holds : InLine line (.output text)) :
    LineStep options number line e
      { e with output := e.output ++ [⟨number, text⟩], count := e.count + 1 }
  | error {message : String} (holds : InLine line (.error message)) :
    LineStep options number line e
      { e.addError (Diagnostic.format (toString number) message) with
        exitCode := options.exitCodes.compileError, count := e.count + 1 }
  | errorAt {tag : Option String} {digits message : String}
      (holds : InLine line (.errorAt tag digits message))
      (ours : tag = none ∨ tag = options.language) :
    LineStep options number line e
      { e.addError (Diagnostic.format digits message) with
        exitCode := options.exitCodes.compileError, count := e.count + 1 }
  | otherLanguage {tag digits message : String}
      (holds : InLine line (.errorAt (some tag) digits message))
      (other : options.language ≠ some tag) :
    LineStep options number line e e
  | runtimeError {message : String} (holds : InLine line (.runtimeError message)) :
    LineStep options number line e
      { e with runtimeError := some ⟨number, message⟩,
               exitCode := options.exitCodes.runtimeError, count := e.count + 1 }
  | nothing
      (no_output : ∀ k, ¬ StartsOutput (line.drop k))
      (no_error : ∀ k, ¬ StartsError (line.drop k))
      (no_numbered : ∀ k, ¬ StartsNumberedError (line.drop k))
      (no_runtime : ∀ k, ¬ StartsRuntimeError (line.drop k)) :
    LineStep options number line e e

variable {options : ReadingOptions} {number : Nat} {line : List Char} {e e' : Expectations}

theorem recordLine_of_inLine {d : Directive} (holds : InLine line d) :
    recordLine options number e line = e.record options.exitCodes options.language number d := by
  rw [recordLine, recognise_eq_some_iff.mpr holds]

theorem applies_errorAt_iff {language tag : Option String} {digits message : String} :
    (Directive.errorAt tag digits message).applies language = true ↔
      tag = none ∨ tag = language := by
  cases tag <;> cases language <;> simp [Directive.applies, eq_comm]

theorem lineStep_recordLine : LineStep options number line e (recordLine options number e line) := by
  cases recognised : recognise line with
  | none =>
    have nowhere := recognise_eq_none_iff.mp recognised
    rw [recordLine, recognised]
    exact .nothing (fun k => (nowhere k).1) (fun k => (nowhere k).2.1)
      (fun k => (nowhere k).2.2.1) fun k => (nowhere k).2.2.2
  | some d =>
    have holds := recognise_eq_some_iff.mp recognised
    rw [recordLine_of_inLine holds]
    cases d with
    | output text => exact .output holds
    | error message => exact .error holds
    | errorAt tag digits message =>
      by_cases ours : tag = none ∨ tag = options.language
      · rw [Expectations.record, if_pos (applies_errorAt_iff.mpr ours)]
        exact .errorAt holds ours
      · rw [Expectations.record, if_neg (mt applies_errorAt_iff.mp ours)]
        obtain ⟨tagged, other⟩ := not_or.mp ours
        obtain ⟨tag, rfl⟩ := Option.ne_none_iff_exists'.mp tagged
        exact .otherLanguage holds (Ne.symm other)
    | runtimeError message => exact .runtimeError holds

theorem LineStep.eq_recordLine (h : LineStep options number line e e') :
    recordLine options number e line = e' := by
  cases h with
  | output holds => rw [recordLine_of_inLine holds]; rfl
  | error holds => rw [recordLine_of_inLine holds]; rfl
  | errorAt holds ours =>
    rw [recordLine_of_inLine holds, Expectations.record, if_pos (applies_errorAt_iff.mpr ours)]
    rfl
  | otherLanguage holds other =>
    rw [recordLine_of_inLine holds, Expectations.record, if_neg]
    rw [applies_errorAt_iff]
    rintro (untagged | same)
    · exact Option.some_ne_none _ untagged
    · exact other same.symm
  | runtimeError holds => rw [recordLine_of_inLine holds]; rfl
  | nothing no_output no_error no_numbered no_runtime =>
    have nowhere : recognise line = none := recognise_eq_none_iff.mpr fun k =>
      ⟨no_output k, no_error k, no_numbered k, no_runtime k⟩
    rw [recordLine, nowhere]

/-- Reading a line takes exactly the step that its text has. -/
theorem recordLine_eq_iff (options : ReadingOptions) (number : Nat) (line : List Char)
    (e e' : Expectations) :
    recordLine options number e line = e' ↔ LineStep options number line e e' := by
  constructor
  · rintro rfl
    exact lineStep_recordLine
  · exact LineStep.eq_recordLine

end Conformance.Fixture

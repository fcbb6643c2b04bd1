import Conformance.Proofs.Directive
import Conformance.Proofs.Text.Lines
import Conformance.Proofs.WholeFixture

/-! # What fixtures can expect

Compile errors and a runtime error exclude each other in the expectations of a fixture, and the exit
code follows from which of them there are. Each expected error is the normal form of a diagnostic
that one line could hold.
-/

namespace Conformance

open Conformance.Text

/-- Expectations of one kind, with the exit code of that kind. -/
structure Expectations.IsConsistent (codes : ExitCodes) (e : Expectations) : Prop where
  exclusive : e.errors = [] ∨ e.runtimeError = none
  clean : e.errors = [] → e.runtimeError = none → e.exitCode = 0
  compileError : e.errors ≠ [] → e.exitCode = codes.compileError
  runtimeError : e.runtimeError ≠ none → e.exitCode = codes.runtimeError

structure Diagnostic.IsAsked (d : Diagnostic) : Prop where
  line : IsNumber d.line
  begins : "Error".toList <+: d.message
  no_newline : '\n' ∉ d.message

namespace Fixture

variable {options : ReadingOptions} {path source : String} {e : Expectations}

theorem sum_errors_eq_nil_iff (codes : ExitCodes) (ps : List Placed) :
    (sum codes ps).errors = [] ↔ ps.filterMap Placed.error? = [] := by
  simp only [sum, List.eq_nil_iff_forall_not_mem, List.mem_eraseDups]

theorem sum_runtimeError_eq_none_iff (codes : ExitCodes) (ps : List Placed) :
    (sum codes ps).runtimeError = none ↔ ps.filterMap Placed.runtimeError? = [] := by
  simp only [sum, List.getLast?_eq_none_iff]

theorem isConsistent_of_read (h : read options path source = .ok e) :
    e.IsConsistent options.exitCodes := by
  obtain ⟨calm, rfl⟩ := eq_sum_of_read h
  have exclusive := conflictLine_eq_none_iff.mp calm
  constructor
  · rwa [sum_errors_eq_nil_iff, sum_runtimeError_eq_none_iff]
  · intro no_errors no_runtime
    rw [sum_errors_eq_nil_iff] at no_errors
    rw [sum_runtimeError_eq_none_iff] at no_runtime
    simp [sum, no_errors, no_runtime]
  · intro errors
    rw [Ne, sum_errors_eq_nil_iff] at errors
    have no_runtime := exclusive.resolve_left errors
    simp [sum, errors, no_runtime]
  · intro runtime
    rw [Ne, sum_runtimeError_eq_none_iff] at runtime
    simp [sum, runtime]

/-- A directive that counts fits a line without newline. -/
theorem fitsLine_of_mem_directives {p : Placed} (h : p ∈ directives options source) :
    ∃ line, '\n' ∉ line ∧ p.directive.FitsLine line := by
  obtain ⟨line, mem, recognised⟩ := exists_line_of_mem_directives h
  exact ⟨line, not_mem_of_mem_sourceLines mem, Directive.fitsLine_of_recognise recognised⟩

theorem isAsked_of_error? {p : Placed} {error : String} {line : List Char} (newline : '\n' ∉ line)
    (fits : p.directive.FitsLine line) (h : p.error? = some error) :
    ∃ d : Diagnostic, d.IsAsked ∧ d.normalForm = error := by
  unfold Placed.error? at h
  split at h
  · next message kind =>
    rw [kind] at fits
    obtain rfl := Option.some.inj h
    refine ⟨⟨(toString p.line).toList, message.toList⟩, ⟨isNumber_toString p.line, fits.1, ?_⟩, ?_⟩
    · exact fun mem => newline (fits.2.subset mem)
    · simp only [Diagnostic.normalForm, String.ofList_toList]
  · next tag number message kind =>
    rw [kind] at fits
    obtain rfl := Option.some.inj h
    refine ⟨⟨number.toList, message.toList⟩, ⟨fits.1, fits.2.1, ?_⟩, ?_⟩
    · exact fun mem => newline (fits.2.2.subset mem)
    · simp only [Diagnostic.normalForm, String.ofList_toList]
  · cases h

theorem isAsked_of_mem_errors (h : read options path source = .ok e) {error : String}
    (mem : error ∈ e.errors) : ∃ d : Diagnostic, d.IsAsked ∧ d.normalForm = error := by
  obtain ⟨-, rfl⟩ := eq_sum_of_read h
  obtain ⟨p, counts, asks⟩ := List.mem_filterMap.mp (List.mem_eraseDups.mp mem)
  obtain ⟨line, newline, fits⟩ := fitsLine_of_mem_directives counts
  exact isAsked_of_error? newline fits asks

theorem text_of_mem_output (h : read options path source = .ok e) {expected : ExpectedOutput}
    (mem : expected ∈ e.output) : '\n' ∉ expected.text.toList := by
  obtain ⟨-, rfl⟩ := eq_sum_of_read h
  obtain ⟨p, counts, asks⟩ := List.mem_filterMap.mp mem
  obtain ⟨line, newline, fits⟩ := fitsLine_of_mem_directives counts
  unfold Placed.output? at asks
  split at asks
  · next text kind =>
    rw [kind] at fits
    obtain rfl := Option.some.inj asks
    exact fun inside => newline (fits.subset inside)
  · cases asks

theorem message_of_mem_runtimeError (h : read options path source = .ok e)
    {r : ExpectedRuntimeError} (mem : e.runtimeError = some r) :
    r.message.toList ≠ [] ∧ '\n' ∉ r.message.toList := by
  obtain ⟨-, rfl⟩ := eq_sum_of_read h
  obtain ⟨p, counts, asks⟩ := List.mem_filterMap.mp (List.mem_of_getLast? mem)
  obtain ⟨line, newline, fits⟩ := fitsLine_of_mem_directives counts
  unfold Placed.runtimeError? at asks
  split at asks
  · next message kind =>
    rw [kind] at fits
    obtain rfl := Option.some.inj asks
    exact ⟨fits.1, fun inside => newline (fits.2.subset inside)⟩
  · cases asks

end Fixture

end Conformance

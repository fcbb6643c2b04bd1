import Conformance.Proofs.Diagnostic
import Conformance.Proofs.Expected
import Conformance.Proofs.Verdict

/-! # Fixtures that some output passes

Directives and the error stream are read by different recognisers, and a directive can ask for a
message that no line of an error stream reports. This happens for a compile error without anything
after `Error`, for a message that holds the place of another compile error, and for a message that
ends in a carriage return. Every other fixture has an output that passes: the normal forms of its
compile errors line by line, or its runtime error with a stack frame.
-/

namespace Conformance

open Conformance.Text

/-- A compile error that some line of an error stream reports. -/
structure Diagnostic.IsReportable (d : Diagnostic) : Prop where
  continues : d.message ≠ "Error".toList
  innermost : ∀ digits c, IsNumber digits → ¬ Diagnostic.place digits c <:+: d.message
  no_return : d.message.getLast? ≠ some '\r'

/-- Expectations whose messages an error stream can show. -/
structure Expectations.IsReportable (e : Expectations) : Prop where
  errors : ∀ d : Diagnostic, IsNumber d.line → d.normalForm ∈ e.errors → d.IsReportable
  runtimeError : ∀ r, e.runtimeError = some r → r.message.toList.getLast? ≠ some '\r'

namespace Diagnostic

theorem IsReportable.of_recognise {line : List Char} {d : Diagnostic} (shown : IsOutputLine line)
    (h : recognise line = some d) : d.IsReportable := by
  obtain ⟨⟨-, c, rest, message⟩, ends, innermost⟩ := recognise_eq_some h
  have nonempty : d.message ≠ [] := by simp [message]
  constructor
  · simp [message]
  · exact lastLocated_eq_none_iff_place.mp innermost
  · obtain ⟨front, rfl⟩ := d.message_suffix_body.trans ends
    have last := shown.no_return
    rwa [List.getLast?_append_of_ne_nil _ nonempty] at last

theorem IsAsked.isReport {d : Diagnostic} (asked : d.IsAsked) (reportable : d.IsReportable) :
    d.IsReport := by
  obtain ⟨rest, message⟩ := asked.begins
  refine ⟨asked.line, ?_⟩
  cases rest with
  | nil => exact absurd (by simpa using message.symm) reportable.continues
  | cons c rest => exact ⟨c, rest, message.symm⟩

theorem IsAsked.isOutputLine {d : Diagnostic} (asked : d.IsAsked) (reportable : d.IsReportable) :
    IsOutputLine d.normalForm.toList := by
  have nonempty : d.message ≠ [] := by
    rintro empty
    simpa [empty] using asked.begins
  rw [toList_normalForm]
  constructor
  · have digits : '\n' ∉ d.line := asked.line.not_mem (by decide)
    simp [body, digits, asked.no_newline]
  · have last := reportable.no_return
    rwa [body, ← List.append_assoc, ← List.cons_append, List.getLast?_append_of_ne_nil _ nonempty]

theorem IsAsked.recognise_normalForm {d : Diagnostic} (asked : d.IsAsked)
    (reportable : d.IsReportable) : recognise d.normalForm.toList = some d :=
  Diagnostic.recognise_normalForm (asked.isReport reportable)
    (lastLocated_eq_none_iff_place.mpr reportable.innermost)

end Diagnostic

namespace Expectations

variable {codes : ExitCodes} {e : Expectations}

/-- Whatever passes shows every message, as far as an error stream can. -/
theorem IsReportable.of_metBy {o : Output} (consistent : e.IsConsistent codes) (met : e.MetBy o) :
    e.IsReportable := by
  have stderr := met.stderr
  constructor
  · intro d number known
    rw [consistent.exclusive.resolve_left (List.ne_nil_of_mem known)] at stderr
    obtain ⟨line, mem, found, recognised, same⟩ := stderr.complete d.normalForm known
    have number' := (Diagnostic.recognise_eq_some recognised).1.line
    obtain rfl := Diagnostic.normalForm_injective number'.2 number.2 same
    exact .of_recognise (isOutputLine_of_mem_outputLines mem) recognised
  · intro r expects
    rw [expects] at stderr
    exact (isOutputLine_of_mem_outputLines (List.mem_of_head? stderr.first)).no_return

def demonstration (e : Expectations) : Output where
  stderr := String.ofList <| unlines <|
    match e.runtimeError with
    | some r => [r.message.toList, "[line 1]".toList]
    | none => e.errors.map String.toList
  exitCode := e.exitCode

end Expectations

theorem showsRuntimeError_unlines {message : String} (shown : IsOutputLine message.toList) :
    ShowsRuntimeError message
      (String.ofList (unlines [message.toList, "[line 1]".toList])) := by
  have frame : IsOutputLine "[line 1]".toList := ⟨by decide, by decide⟩
  have lines : outputLines (String.ofList (unlines [message.toList, "[line 1]".toList])).toList =
      [message.toList, "[line 1]".toList] := by
    rw [String.toList_ofList]
    apply outputLines_unlines
    intro line mem
    rcases List.mem_pair.mp mem with rfl | rfl
    · exact shown
    · exact frame
  constructor
  · simp [unlines]
  · rw [lines, List.head?_cons]
  · rw [lines]
    refine ⟨"[line 1]".toList, List.mem_singleton_self _, "1".toList, by decide, ?_⟩
    exact List.infix_rfl

theorem reportsExactly_unlines {errors : List String}
    (shown : ∀ error ∈ errors, IsOutputLine error.toList)
    (recognised : ∀ error ∈ errors,
      ∃ d, Diagnostic.recognise error.toList = some d ∧ d.normalForm = error) :
    ReportsExactly errors (String.ofList (unlines (errors.map String.toList))) := by
  have lines : outputLines (String.ofList (unlines (errors.map String.toList))).toList =
      errors.map String.toList := by
    rw [String.toList_ofList]
    apply outputLines_unlines
    intro line mem
    obtain ⟨error, known, rfl⟩ := List.mem_map.mp mem
    exact shown error known
  constructor
  · rw [lines]
    intro line mem _
    obtain ⟨error, known, rfl⟩ := List.mem_map.mp mem
    obtain ⟨d, found, form⟩ := recognised error known
    exact ⟨d, found, form ▸ known⟩
  · rw [lines]
    intro error known
    exact ⟨error.toList, List.mem_map_of_mem known, recognised error known⟩

namespace Fixture

variable {options : ReadingOptions} {path source : String} {e : Expectations}

theorem metBy_demonstration (h : read options path source = .ok e)
    (reportable : e.IsReportable) : e.MetBy e.demonstration := by
  have asked {error : String} (known : error ∈ e.errors) :
      ∃ d : Diagnostic, d.IsAsked ∧ d.IsReportable ∧ d.normalForm = error := by
    obtain ⟨d, asks, rfl⟩ := isAsked_of_mem_errors h known
    exact ⟨d, asks, reportable.errors d asks.line known, rfl⟩
  constructor
  · unfold Expectations.demonstration
    cases expects : e.runtimeError with
    | some r =>
      apply showsRuntimeError_unlines
      exact ⟨(message_of_mem_runtimeError h expects).2, reportable.runtimeError r expects⟩
    | none =>
      apply reportsExactly_unlines
      · intro error known
        obtain ⟨d, asks, report, rfl⟩ := asked known
        exact asks.isOutputLine report
      · intro error known
        obtain ⟨d, asks, report, rfl⟩ := asked known
        exact ⟨d, asks.recognise_normalForm report, rfl⟩
  · rfl
  · exact List.nil_prefix

/-- Some output passes a fixture exactly if its messages can be reported. -/
theorem satisfiable_iff (h : read options path source = .ok e) :
    (∃ o, e.judge o = []) ↔ e.IsReportable := by
  constructor
  · rintro ⟨o, passes⟩
    exact .of_metBy (isConsistent_of_read h) ((e.judge_eq_nil_iff o).mp passes)
  · intro reportable
    exact ⟨e.demonstration, (e.judge_eq_nil_iff _).mpr (metBy_demonstration h reportable)⟩

/-- No output passes a fixture that asks for `Error` alone. -/
theorem unsatisfiable_bare_error :
    read {} "bare.lox" "// Error" = .ok { errors := ["[1] Error"], exitCode := 65, count := 1 } ∧
      ¬ ∃ o, Expectations.judge { errors := ["[1] Error"], exitCode := 65, count := 1 } o = [] := by
  have bare : read {} "bare.lox" "// Error" =
      .ok { errors := ["[1] Error"], exitCode := 65, count := 1 } := rfl
  refine ⟨bare, ?_⟩
  rw [satisfiable_iff bare]
  intro reportable
  have error := reportable.errors ⟨"1".toList, "Error".toList⟩ (by decide) (by decide)
  exact error.continues rfl

end Fixture

end Conformance

import Conformance.Proofs.Scan
import Conformance.Proofs.Text.Lines

/-! # When an output passes

Each check in terms of the lines of the output: what the error stream must show, the exit code, and
the lines printed so far. Together they decide the verdict, for any expectations.
-/

namespace Conformance

open Conformance.Text

/-- An error stream that shows a runtime error: a first line with its end, and a trace after it. -/
structure ShowsRuntimeError (message stderr : String) : Prop where
  ended : '\n' ∈ stderr.toList
  first : (outputLines stderr.toList).head? = some message.toList
  trace : ∃ line ∈ (outputLines stderr.toList).tail, Diagnostic.HasFrame line

/-- An error stream that reports some errors, all of them, and nothing else. -/
structure ReportsExactly (errors : List String) (stderr : String) : Prop where
  expected : ∀ line ∈ outputLines stderr.toList, line ≠ [] →
    ∃ d, Diagnostic.recognise line = some d ∧ d.normalForm ∈ errors
  complete : ∀ error ∈ errors, ∃ line ∈ outputLines stderr.toList,
    ∃ d, Diagnostic.recognise line = some d ∧ d.normalForm = error

/-- An output that meets expectations. Expected lines may be left out at the end. -/
structure Expectations.MetBy (e : Expectations) (o : Output) : Prop where
  stderr : match e.runtimeError with
    | some expected => ShowsRuntimeError expected.message o.stderr
    | none => ReportsExactly e.errors o.stderr
  exitCode : o.exitCode = e.exitCode
  stdout : (outputLines o.stdout.toList).map String.ofList <+: e.output.map ExpectedOutput.text

namespace Verdict

theorem runtimeFailures?_eq_nil_iff (message stderr : String) :
    runtimeFailures? message (outputPieces stderr.toList) = some [] ↔
      ShowsRuntimeError message stderr := by
  have pieces : (outputPieces stderr.toList).length < 2 ↔ '\n' ∉ stderr.toList := by
    rw [length_outputPieces, ← List.count_eq_zero]
    omega
  unfold runtimeFailures?
  split
  · next short =>
    simp only [Option.some.injEq, reduceCtorEq, false_iff]
    intro shown
    exact pieces.mp short shown.ended
  · next long =>
    have ended : '\n' ∈ stderr.toList := by
      by_contra h
      exact long (pieces.mpr h)
    rw [← outputLines]
    cases lines : outputLines stderr.toList with
    | nil =>
      simp only [reduceCtorEq, false_iff]
      intro shown
      simpa [lines] using shown.first
    | cons first trace =>
      have traced : trace.any Diagnostic.isFrame = true ↔
          ∃ line ∈ trace, Diagnostic.HasFrame line := by
        simp only [List.any_eq_true, Diagnostic.isFrame_iff]
      have same : String.ofList first = message ↔ first = message.toList := by
        constructor
        · rintro rfl
          exact String.toList_ofList.symm
        · rintro rfl
          exact String.ofList_toList
      constructor
      · intro h
        refine ⟨ended, ?_, ?_⟩
        · by_cases eq : String.ofList first = message
          · rw [lines, List.head?_cons, same.mp eq]
          · simp [eq] at h
        · rw [lines]
          by_cases frame : trace.any Diagnostic.isFrame = true
          · exact traced.mp frame
          · simp [frame] at h
      · rintro ⟨-, head, frame⟩
        rw [lines] at head frame
        have eq := same.mpr (Option.some.inj head)
        simp [eq, traced.mpr frame]

theorem compileFailures_eq_nil_iff (errors : List String) (stderr : String) :
    compileFailures errors (outputPieces stderr.toList) = [] ↔ ReportsExactly errors stderr := by
  have quiet : surprising errors (outputLines stderr.toList) = [] ↔
      ∀ line ∈ outputLines stderr.toList, line ≠ [] →
        ∃ d, Diagnostic.recognise line = some d ∧ d.normalForm ∈ errors := by
    simp only [surprising, List.filter_eq_nil_iff, Bool.not_eq_true, isSurprise_eq_false_iff]
  have found : missing errors (outputLines stderr.toList) = [] ↔
      ∀ error ∈ errors, ∃ line ∈ outputLines stderr.toList,
        ∃ d, Diagnostic.recognise line = some d ∧ d.normalForm = error := by
    simp [missing, ← reported_eq_some_iff]
  rw [compileFailures_eq, ← outputLines]
  constructor
  · intro h
    simp only [List.append_eq_nil_iff, List.map_eq_nil_iff, List.take_eq_nil_iff] at h
    exact ⟨quiet.mp (h.1.1.resolve_left (by decide)), found.mp h.2⟩
  · rintro ⟨expected, complete⟩
    simp [quiet.mpr expected, found.mpr complete]

theorem exitCodeFailures_eq_nil_iff (expected actual : Int) (pieces : List (List Char)) :
    exitCodeFailures expected actual pieces = [] ↔ actual = expected := by
  unfold exitCodeFailures
  split
  · next same => simp [same]
  · next differs => simp [Ne.symm differs]

theorem outputFailures_eq_nil_iff (expected : List ExpectedOutput) (lines : List (List Char)) :
    outputFailures expected lines = [] ↔
      lines.map String.ofList <+: expected.map ExpectedOutput.text := by
  induction lines generalizing expected with
  | nil => simp [outputFailures]
  | cons line lines ih =>
    cases expected with
    | nil => simp [outputFailures]
    | cons first rest =>
      rw [outputFailures, List.append_eq_nil_iff, ih, List.map_cons, List.map_cons,
        List.cons_prefix_cons, and_congr_left_iff]
      intro _
      split
      · next same => simp [same]
      · next differs => simp [Ne.symm differs]

end Verdict

namespace Expectations

theorem judge?_eq_some (e : Expectations) (o : Output) : e.judge? o = some (e.judge o) :=
  (Option.some_get _).symm

theorem judge_of_stderrFailures {e : Expectations} {o : Output} {failures : List Failure}
    (checked : Verdict.stderrFailures? e (outputPieces o.stderr.toList) = some failures) :
    e.judge o = failures ++
      Verdict.exitCodeFailures e.exitCode o.exitCode (outputPieces o.stderr.toList) ++
      Verdict.outputFailures e.output (outputLines o.stdout.toList) := by
  have parts := judge?_eq_some e o
  simp only [judge?, checked, Option.bind_eq_bind, Option.bind_some, Option.some.injEq] at parts
  exact parts.symm

theorem judge_eq_nil_iff (e : Expectations) (o : Output) : e.judge o = [] ↔ e.MetBy o := by
  have parts : e.judge o = [] ↔
      Verdict.stderrFailures? e (outputPieces o.stderr.toList) = some [] ∧
        Verdict.exitCodeFailures e.exitCode o.exitCode (outputPieces o.stderr.toList) = [] ∧
        Verdict.outputFailures e.output (outputLines o.stdout.toList) = [] := by
    obtain ⟨failures, checked⟩ := Option.isSome_iff_exists.mp
      (Verdict.stderrFailures?_isSome e (outputPieces o.stderr.toList))
    rw [judge_of_stderrFailures checked, checked, Option.some.injEq, List.append_eq_nil_iff,
      List.append_eq_nil_iff, and_assoc]
  have stderr : Verdict.stderrFailures? e (outputPieces o.stderr.toList) = some [] ↔
      match e.runtimeError with
      | some expected => ShowsRuntimeError expected.message o.stderr
      | none => ReportsExactly e.errors o.stderr := by
    unfold Verdict.stderrFailures?
    cases e.runtimeError with
    | some expected => exact Verdict.runtimeFailures?_eq_nil_iff expected.message o.stderr
    | none =>
      rw [Option.some.injEq]
      exact Verdict.compileFailures_eq_nil_iff e.errors o.stderr
  rw [parts, stderr, Verdict.exitCodeFailures_eq_nil_iff, Verdict.outputFailures_eq_nil_iff]
  constructor
  · rintro ⟨shown, code, printed⟩
    exact ⟨shown, code, printed⟩
  · rintro ⟨shown, code, printed⟩
    exact ⟨shown, code, printed⟩

/-- Every output is judged, and it passes exactly if it meets the expectations. -/
theorem judgement_exact (e : Expectations) (o : Output) :
    ∃ failures, e.judge? o = some failures ∧ e.judge o = failures ∧
      (failures = [] ↔ e.MetBy o) :=
  ⟨e.judge o, judge?_eq_some e o, rfl, judge_eq_nil_iff e o⟩

end Expectations

end Conformance

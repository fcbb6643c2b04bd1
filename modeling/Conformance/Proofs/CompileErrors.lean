import Conformance.Proofs.Verdict
import Mathlib.Logic.Relation

/-! # Compile errors on an error stream

What is reported of an error stream when no runtime error is expected: the first unexpected lines,
how many more there are, and the expected errors that no line reports. The headlines of a verdict
tell the number of unexpected lines and which errors are missing, so neither the order of the lines
nor blank lines nor errors that are reported again make a difference to them.
-/

namespace Conformance

open Conformance.Text

/-- A line that is not blank and reports none of the errors. -/
def IsUnexpected (errors : List String) (line : List Char) : Prop :=
  line ≠ [] ∧ ∀ error ∈ errors, Verdict.reported line ≠ some error

def IsUnreported (lines : List (List Char)) (error : String) : Prop :=
  ∀ line ∈ lines, Verdict.reported line ≠ some error

instance (errors : List String) : DecidablePred (IsUnexpected errors) := fun line =>
  inferInstanceAs (Decidable (line ≠ [] ∧ ∀ error ∈ errors, Verdict.reported line ≠ some error))

instance (lines : List (List Char)) : DecidablePred (IsUnreported lines) := fun error =>
  inferInstanceAs (Decidable (∀ line ∈ lines, Verdict.reported line ≠ some error))

/-- The report on an error stream with these unexpected lines, when these errors are missing. -/
def streamReport (unexpected : List (List Char)) (unreported : List String) : List Failure :=
  (unexpected.take 10).map (fun line =>
    { message := "Unexpected output on stderr:", context := [String.ofList line] }) ++
  (if unexpected.length > 10 then
    [{ message := "(truncated " ++ toString (unexpected.length - 10) ++ " more...)" }]
  else []) ++
  unreported.map fun error => { message := "Missing expected error: " ++ error }

namespace Verdict

theorem reported_nil : reported [] = none := rfl

theorem isSurprise_iff (errors : List String) (line : List Char) :
    isSurprise errors line = true ↔ IsUnexpected errors line := by
  unfold isSurprise IsUnexpected
  cases report : reported line with
  | none => simp
  | some error =>
    have nonblank : line ≠ [] := by
      rintro rfl
      rw [reported_nil] at report
      cases report
    simp only [decide_eq_true_iff, ne_eq, Option.some.injEq, nonblank, not_false_eq_true, true_and]
    constructor
    · rintro new other known rfl
      exact new known
    · intro new known
      exact new error known rfl

theorem surprising_eq (errors : List String) (lines : List (List Char)) :
    surprising errors lines = lines.filter fun line => IsUnexpected errors line := by
  apply List.filter_congr
  intro line _
  rw [Bool.eq_iff_iff, isSurprise_iff, decide_eq_true_iff]

theorem missing_eq (errors : List String) (lines : List (List Char)) :
    missing errors lines = errors.filter fun error => IsUnreported lines error := by
  apply List.filter_congr
  intro error _
  rw [Bool.eq_iff_iff, decide_eq_true_iff]
  simp [IsUnreported]

theorem stderrFailures?_of_none {e : Expectations} (no_runtime : e.runtimeError = none)
    (pieces : List (List Char)) :
    stderrFailures? e pieces = some (streamReport
      ((dropBlankTail pieces).filter fun line => IsUnexpected e.errors line)
      (e.errors.filter fun error => IsUnreported (dropBlankTail pieces) error)) := by
  simp only [stderrFailures?, no_runtime, compileFailures_eq, surprising_eq, missing_eq]
  rfl

theorem length_exitCodeFailures (expected actual : Int) (pieces : List (List Char)) :
    (exitCodeFailures expected actual pieces).length ≤ 1 := by
  unfold exitCodeFailures
  split
  · exact Nat.zero_le 1
  · exact Nat.le_refl 1

end Verdict

/-- Without a runtime error the verdict begins with the report on the error stream; at most one
failure for the exit code and those for the output lines follow. -/
theorem Expectations.stream_reported (e : Expectations) (o : Output)
    (no_runtime : e.runtimeError = none) :
    let lines := outputLines o.stderr.toList
    let report := streamReport (lines.filter fun line => IsUnexpected e.errors line)
      (e.errors.filter fun error => IsUnreported lines error)
    let exit := Verdict.exitCodeFailures e.exitCode o.exitCode (outputPieces o.stderr.toList)
    Verdict.stderrFailures? e (outputPieces o.stderr.toList) = some report ∧
      e.judge o = report ++ exit ++
        Verdict.outputFailures e.output (outputLines o.stdout.toList) ∧
      exit.length ≤ 1 := by
  have checked := Verdict.stderrFailures?_of_none no_runtime (outputPieces o.stderr.toList)
  refine ⟨checked, judge_of_stderrFailures checked, ?_⟩
  exact Verdict.length_exitCodeFailures _ _ _

/-- An expected error is found behind more lines than the report shows. -/
theorem Expectations.stream_reported_late :
    let e : Expectations := { errors := ["[7] Error: a", "[8] Error: b"], exitCode := 65 }
    let noise := List.replicate 11 "noise".toList
    let o : Output :=
      { stderr := String.ofList (unlines (noise ++ ["[line 7] Error: a".toList])), exitCode := 65 }
    e.runtimeError = none ∧
      e.judge o = List.replicate 10 ⟨"Unexpected output on stderr:", ["noise"]⟩ ++
        [⟨"(truncated 1 more...)", []⟩, ⟨"Missing expected error: [8] Error: b", []⟩] := by
  intro e noise o
  have no_runtime : e.runtimeError = none := rfl
  obtain ⟨-, judged, -⟩ := Expectations.stream_reported e o no_runtime
  refine ⟨no_runtime, judged.trans ?_⟩
  decide +kernel

/-! ## Order and repetition -/

/-- One change of an error stream that leaves the errors it reports and the number of unexpected
lines as they are. -/
inductive Rearranged (errors : List String) : List (List Char) → List (List Char) → Prop where
  | reorder {lines others : List (List Char)} (same : lines.Perm others) :
    Rearranged errors lines others
  | blank (front rest : List (List Char)) : Rearranged errors (front ++ rest) (front ++ [] :: rest)
  | again (error : String) {front rest : List (List Char)} {line : List Char}
      (seen : line ∈ front ++ rest) (reports : Verdict.reported line = some error)
      (expected : error ∈ errors) :
    Rearranged errors (front ++ rest) (front ++ line :: rest)

/-- Error streams that come from each other by such changes, made or taken back. -/
def SameReports (errors : List String) : List (List Char) → List (List Char) → Prop :=
  Relation.EqvGen (Rearranged errors)

/-- Lines of error streams that the headlines cannot tell apart. -/
structure ReportAlike (errors : List String) (lines others : List (List Char)) : Prop where
  unexpected : (lines.filter fun line => IsUnexpected errors line).length =
    (others.filter fun line => IsUnexpected errors line).length
  unreported : ∀ error ∈ errors, (IsUnreported lines error ↔ IsUnreported others error)

section

variable {errors : List String} {lines others more front rest : List (List Char)}

theorem ReportAlike.refl (lines : List (List Char)) : ReportAlike errors lines lines := by
  constructor
  · rfl
  · intro error _
    exact Iff.rfl

theorem ReportAlike.symm (h : ReportAlike errors lines others) :
    ReportAlike errors others lines := by
  constructor
  · exact h.unexpected.symm
  · intro error known
    exact (h.unreported error known).symm

theorem ReportAlike.trans (h : ReportAlike errors lines others)
    (h' : ReportAlike errors others more) : ReportAlike errors lines more := by
  constructor
  · exact h.unexpected.trans h'.unexpected
  · intro error known
    exact (h.unreported error known).trans (h'.unreported error known)

/-- A line more does nothing if it is expected and every error it reports is reported anyway. -/
theorem reportAlike_insert {line : List Char} (expected : ¬ IsUnexpected errors line)
    (known : ∀ error, Verdict.reported line = some error → ¬ IsUnreported (front ++ rest) error) :
    ReportAlike errors (front ++ rest) (front ++ line :: rest) := by
  constructor
  · simp [List.filter_append, expected]
  · intro error _
    constructor
    · intro unreported other mem report
      rcases List.mem_append.mp mem with mem | mem
      · exact unreported other (List.mem_append_left rest mem) report
      · rcases List.mem_cons.mp mem with rfl | mem
        · exact known error report unreported
        · exact unreported other (List.mem_append_right front mem) report
    · intro unreported other mem
      apply unreported other
      rcases List.mem_append.mp mem with mem | mem
      · exact List.mem_append_left _ mem
      · exact List.mem_append_right _ (List.mem_cons_of_mem _ mem)

theorem reportAlike_of_rearranged (h : Rearranged errors lines others) :
    ReportAlike errors lines others := by
  cases h with
  | reorder same =>
    constructor
    · exact (same.filter _).length_eq
    · intro error _
      simp only [IsUnreported, same.mem_iff]
  | blank front rest =>
    apply reportAlike_insert
    · intro unexpected
      exact unexpected.1 rfl
    · intro error report
      rw [Verdict.reported_nil] at report
      cases report
  | @again error front rest line seen reports expected =>
    apply reportAlike_insert
    · intro unexpected
      exact unexpected.2 error expected reports
    · intro other report unreported
      exact unreported line seen report

theorem SameReports.reportAlike (h : SameReports errors lines others) :
    ReportAlike errors lines others := by
  induction h with
  | rel _ _ change => exact reportAlike_of_rearranged change
  | refl lines => exact .refl lines
  | symm _ _ _ ih => exact ih.symm
  | trans _ _ _ _ _ first second => exact first.trans second

theorem sameReports_dropBlankTail (errors : List String) (lines : List (List Char)) :
    SameReports errors (dropBlankTail lines) lines := by
  unfold dropBlankTail
  split
  · next last =>
    have split : lines.dropLast ++ [[]] = lines := List.dropLast_append_getLast? [] last
    have change := @Rearranged.blank errors lines.dropLast []
    rw [List.append_nil, split] at change
    exact .rel _ _ change
  · exact .refl lines

theorem headlines_streamReport {unexpected unexpected' : List (List Char)}
    (count : unexpected.length = unexpected'.length) (unreported : List String) :
    (streamReport unexpected unreported).map Failure.message =
      (streamReport unexpected' unreported).map Failure.message := by
  have headline (lines : List (List Char)) :
      ((lines.take 10).map fun line => (⟨"Unexpected output on stderr:", [String.ofList line]⟩ :
        Failure)).map Failure.message =
      List.replicate (min 10 lines.length) "Unexpected output on stderr:" := by
    rw [List.map_map, ← List.length_take]
    exact List.map_const'
  simp only [streamReport, List.map_append, headline, count]

theorem ReportAlike.missing_eq (h : ReportAlike errors lines others) :
    (errors.filter fun error => IsUnreported lines error) =
      errors.filter fun error => IsUnreported others error := by
  apply List.filter_congr
  intro error known
  rw [decide_eq_decide]
  exact h.unreported error known

theorem ReportAlike.headlines (h : ReportAlike errors lines others) :
    (streamReport (lines.filter fun line => IsUnexpected errors line)
        (errors.filter fun error => IsUnreported lines error)).map Failure.message =
      (streamReport (others.filter fun line => IsUnexpected errors line)
        (errors.filter fun error => IsUnreported others error)).map Failure.message := by
  rw [h.missing_eq]
  exact headlines_streamReport h.unexpected _

end

/-- Compile errors are compared as a set: lines in another order, blank lines, and errors that are
reported again change no headline of the verdict. -/
theorem Expectations.arrangement_irrelevant (e : Expectations) (no_runtime : e.runtimeError = none)
    {o o' : Output} (stdout : o.stdout = o'.stdout) (exitCode : o.exitCode = o'.exitCode)
    (stderr : SameReports e.errors (outputPieces o.stderr.toList)
      (outputPieces o'.stderr.toList)) :
    (e.judge o).map Failure.message = (e.judge o').map Failure.message ∧
      (e.judge o = [] ↔ e.judge o' = []) ∧
      (e.errors.filter fun error => IsUnreported (outputLines o.stderr.toList) error) =
        e.errors.filter fun error => IsUnreported (outputLines o'.stderr.toList) error := by
  -- the blank line that is dropped may be another one in each stream
  have alike : ReportAlike e.errors (outputLines o.stderr.toList) (outputLines o'.stderr.toList) :=
    ((sameReports_dropBlankTail _ _).reportAlike.trans stderr.reportAlike).trans
      (sameReports_dropBlankTail _ _).reportAlike.symm
  have code : (Verdict.exitCodeFailures e.exitCode o.exitCode
        (outputPieces o.stderr.toList)).map Failure.message =
      (Verdict.exitCodeFailures e.exitCode o'.exitCode
        (outputPieces o'.stderr.toList)).map Failure.message := by
    rw [exitCode]
    unfold Verdict.exitCodeFailures
    split <;> rfl
  have headlines : (e.judge o).map Failure.message = (e.judge o').map Failure.message := by
    rw [judge_of_stderrFailures (Verdict.stderrFailures?_of_none no_runtime _),
      judge_of_stderrFailures (Verdict.stderrFailures?_of_none no_runtime _)]
    have report := alike.headlines
    unfold outputLines at report
    simp only [List.map_append, report, code, stdout]
  refine ⟨headlines, ?_, alike.missing_eq⟩
  rw [← List.map_eq_nil_iff (f := Failure.message), headlines, List.map_eq_nil_iff]

/-- The blank line that ends a stream may move before others. -/
theorem Expectations.arrangement_irrelevant_blank :
    let e : Expectations := { errors := ["[1] Error: a", "[2] Error: b"], exitCode := 65 }
    let o : Output := { stderr := "[line 1] Error: a\noops\n", exitCode := 65 }
    let o' : Output := { stderr := "\noops\n[line 1] Error: a\n[line 1] Error: a", exitCode := 65 }
    SameReports e.errors (outputPieces o.stderr.toList) (outputPieces o'.stderr.toList) ∧
      (e.judge o).map Failure.message = (e.judge o').map Failure.message ∧
      (e.judge o').map Failure.message =
        ["Unexpected output on stderr:", "Missing expected error: [2] Error: b"] := by
  intro e o o'
  let report := "[line 1] Error: a".toList
  have order : Rearranged e.errors [report, "oops".toList, []] [[], "oops".toList, report] :=
    .reorder (by decide)
  have twice : Rearranged e.errors ([[], "oops".toList, report] ++ [])
      ([[], "oops".toList, report] ++ report :: []) :=
    .again "[1] Error: a" (by decide) (by decide +kernel) (by decide)
  have first : outputPieces o.stderr.toList = [report, "oops".toList, []] := by decide
  have second : outputPieces o'.stderr.toList = [[], "oops".toList, report] ++ report :: [] := by
    decide
  have same : SameReports e.errors (outputPieces o.stderr.toList)
      (outputPieces o'.stderr.toList) := by
    rw [first, second]
    exact .trans _ _ _ (.rel _ _ order) (.rel _ _ twice)
  refine ⟨same, ?_, by decide +kernel⟩
  exact (@Expectations.arrangement_irrelevant e rfl o o' rfl rfl same).1

end Conformance

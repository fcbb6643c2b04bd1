import Conformance.Proofs.CompileErrors

/-! # How much of an output a report shows

Each check finds something about some lines of the output, and its failures repeat these lines, as
context or quoted in a headline. A check that collects lines repeats ten of them and counts the
others in one mark. Two checks go beyond that. The check for a runtime error repeats ten lines of
the trace besides the first line of the error stream, and the check of the output lines repeats
every line that differs.
-/

namespace Conformance

open Conformance.Text

/-- What a check finds, with the lines of the output that it is about. -/
inductive Finding where
  | unexpected (line : List Char)
  | further (count : Nat)
  | unreported (error : String)
  | noRuntimeError (message : String)
  | otherMessage (message : String) (line : List Char)
  | noTrace (lines : List (List Char))
  | exitCode (expected actual : Int) (lines : List (List Char))
  | extraLine (line : List Char)
  | otherLine (expected : ExpectedOutput) (line : List Char)
deriving DecidableEq, Repr

namespace Finding

def failure : Finding → Failure
  | .unexpected line =>
    { message := "Unexpected output on stderr:", context := [String.ofList line] }
  | .further count => { message := Failure.truncationMark count }
  | .unreported error => { message := "Missing expected error: " ++ error }
  | .noRuntimeError message =>
    { message := "Expected runtime error '" ++ message ++ "' but got none" }
  | .otherMessage message line =>
    { message := "Expected runtime error '" ++ message ++ "' and got:",
      context := [String.ofList line] }
  | .noTrace lines => { message := "Expected stack trace and got:", context := Failure.shown lines }
  | .exitCode expected actual lines =>
    { message := "Expected return code " ++ toString expected ++ " and got " ++ toString actual ++
        ". Stderr:",
      context := Failure.shown lines }
  | .extraLine line =>
    { message := "Got output '" ++ String.ofList line ++ "' when none was expected" }
  | .otherLine expected line =>
    { message := "Expected output '" ++ expected.text ++ "' on line " ++ toString expected.line ++
        " and got '" ++ String.ofList line ++ "'" }

/-- The lines of the output that the failure repeats. -/
def repeated : Finding → List (List Char)
  | .unexpected line | .otherMessage _ line | .extraLine line | .otherLine _ line => [line]
  | .noTrace lines | .exitCode _ _ lines => lines.take 10
  | .further _ | .unreported _ | .noRuntimeError _ => []

/-- The numbers of further lines, one for each mark in the failure. -/
def marks : Finding → List Nat
  | .further count => [count]
  | .noTrace lines | .exitCode _ _ lines => if lines.length > 10 then [lines.length - 10] else []
  | _ => []

/-- The failure holds the lines that it repeats, and its context is these lines and the marks. -/
structure IsShown (f : Finding) : Prop where
  lines : ∀ line ∈ f.repeated, ∃ entry ∈ f.failure.lines, line <:+: entry.toList
  context : f.failure.context = [] ∨
    f.failure.context = f.repeated.map String.ofList ++ f.marks.map Failure.truncationMark

theorem shown_eq (lines : List (List Char)) :
    Failure.shown lines = (lines.take 10).map String.ofList ++
      (if lines.length > 10 then [lines.length - 10] else []).map Failure.truncationMark := by
  unfold Failure.shown Failure.maxReportedLines
  by_cases many : lines.length > 10
  · simp [many]
  · simp [many]

theorem isShown_of_context {f : Finding}
    (context : f.failure.context =
      f.repeated.map String.ofList ++ f.marks.map Failure.truncationMark) : f.IsShown := by
  refine ⟨fun line mem => ?_, Or.inr context⟩
  refine ⟨String.ofList line, ?_, ?_⟩
  · rw [Failure.lines, context]
    exact List.mem_cons_of_mem _ (List.mem_append_left _ (List.mem_map_of_mem mem))
  · rw [String.toList_ofList]

theorem isShown_of_quoted {f : Finding} {line : List Char} (front back : String)
    (repeated : f.repeated = [line])
    (failure : f.failure = { message := front ++ String.ofList line ++ back }) : f.IsShown := by
  constructor
  · intro other mem
    rw [repeated, List.mem_singleton] at mem
    refine ⟨front ++ String.ofList line ++ back, ?_, ?_⟩
    · rw [failure, Failure.lines]
      exact List.mem_cons_self
    · rw [mem, String.toList_append, String.toList_append, String.toList_ofList]
      exact ⟨front.toList, back.toList, rfl⟩
  · rw [failure]
    exact Or.inl rfl

theorem isShown (f : Finding) : f.IsShown := by
  cases f with
  | unexpected line => exact isShown_of_context rfl
  | further count => exact ⟨nofun, Or.inl rfl⟩
  | unreported error => exact ⟨nofun, Or.inl rfl⟩
  | noRuntimeError message => exact ⟨nofun, Or.inl rfl⟩
  | otherMessage message line => exact isShown_of_context rfl
  | noTrace lines => exact isShown_of_context (shown_eq lines)
  | exitCode expected actual lines => exact isShown_of_context (shown_eq lines)
  | extraLine line => exact isShown_of_quoted "Got output '" "' when none was expected" rfl rfl
  | otherLine expected line =>
    exact isShown_of_quoted ("Expected output '" ++ expected.text ++ "' on line " ++
      toString expected.line ++ " and got '") "'" rfl rfl

end Finding

/-! ## The findings of each check -/

def streamFindings (unexpected : List (List Char)) (unreported : List String) : List Finding :=
  (unexpected.take 10).map .unexpected ++
    (if unexpected.length > 10 then [.further (unexpected.length - 10)] else []) ++
    unreported.map .unreported

def traceFindings (message : String) : List (List Char) → List Finding
  | [] => []
  | first :: trace =>
    (if String.ofList first = message then [] else [.otherMessage message first]) ++
      (if trace.any Diagnostic.isFrame then [] else [.noTrace trace])

def outputFinding? (line : List Char) : Option ExpectedOutput → Option Finding
  | none => some (.extraLine line)
  | some expected =>
    if expected.text = String.ofList line then none else some (.otherLine expected line)

def outputFindings (expected : List ExpectedOutput) (lines : List (List Char)) : List Finding :=
  lines.zipIdx.filterMap fun (line, place) => outputFinding? line expected[place]?

namespace Expectations

def stderrFindings (e : Expectations) (stderr : String) : List Finding :=
  let lines := outputLines stderr.toList
  match e.runtimeError with
  | none =>
    streamFindings (lines.filter fun line => IsUnexpected e.errors line)
      (e.errors.filter fun error => IsUnreported lines error)
  | some expected =>
    if '\n' ∈ stderr.toList then traceFindings expected.message lines
    else [.noRuntimeError expected.message]

def exitCodeFindings (e : Expectations) (o : Output) : List Finding :=
  if o.exitCode = e.exitCode then []
  else [.exitCode e.exitCode o.exitCode (outputLines o.stderr.toList)]

def findings (e : Expectations) (o : Output) : List (List Finding) :=
  [e.stderrFindings o.stderr, e.exitCodeFindings o,
    outputFindings e.output (outputLines o.stdout.toList)]

end Expectations

/-- The output lines that are not the text expected at their place. -/
def differing (expected : List ExpectedOutput) (lines : List (List Char)) : List (List Char) :=
  (lines.zipIdx.filter fun (line, place) =>
    expected[place]?.map ExpectedOutput.text ≠ some (String.ofList line)).map Prod.fst

namespace Verdict

theorem streamReport_eq (unexpected : List (List Char)) (unreported : List String) :
    streamReport unexpected unreported =
      (streamFindings unexpected unreported).map Finding.failure := by
  simp only [streamReport, streamFindings, List.map_append, List.map_map]
  congr 2
  split <;> rfl

theorem traceFindings_eq (message : String) {stderr : String} (ended : '\n' ∈ stderr.toList) :
    runtimeFailures? message (outputPieces stderr.toList) =
      some ((traceFindings message (outputLines stderr.toList)).map Finding.failure) := by
  have long : ¬ (outputPieces stderr.toList).length < 2 := by
    have newlines := List.count_pos_iff.mpr ended
    rw [length_outputPieces]
    omega
  unfold runtimeFailures?
  rw [if_neg long, ← outputLines]
  cases lines : outputLines stderr.toList with
  | nil =>
    have atLeast := length_dropBlankTail (outputPieces stderr.toList)
    rw [← outputLines, lines, List.length_nil] at atLeast
    omega
  | cons first trace =>
    simp only [traceFindings, List.map_append]
    congr 2
    · split <;> rfl
    · split <;> rfl

theorem noRuntimeError_eq (message : String) {stderr : String} (unended : '\n' ∉ stderr.toList) :
    runtimeFailures? message (outputPieces stderr.toList) =
      some ([Finding.noRuntimeError message].map Finding.failure) := by
  have short : (outputPieces stderr.toList).length < 2 := by
    rw [length_outputPieces, List.count_eq_zero.mpr unended]
    omega
  unfold runtimeFailures?
  rw [if_pos short]
  rfl

theorem stderrFailures?_eq (e : Expectations) (stderr : String) :
    stderrFailures? e (outputPieces stderr.toList) =
      some ((e.stderrFindings stderr).map Finding.failure) := by
  unfold Expectations.stderrFindings
  cases expects : e.runtimeError with
  | none =>
    rw [stderrFailures?_of_none expects, streamReport_eq]
    rfl
  | some expected =>
    simp only [stderrFailures?, expects]
    by_cases ended : '\n' ∈ stderr.toList
    · rw [if_pos ended, traceFindings_eq expected.message ended]
    · rw [if_neg ended, noRuntimeError_eq expected.message ended]

theorem exitCodeFailures_eq (e : Expectations) (o : Output) :
    exitCodeFailures e.exitCode o.exitCode (outputPieces o.stderr.toList) =
      (e.exitCodeFindings o).map Finding.failure := by
  unfold exitCodeFailures Expectations.exitCodeFindings
  by_cases same : o.exitCode = e.exitCode
  · rw [if_pos same, if_pos same.symm]
    rfl
  · rw [if_neg same, if_neg (Ne.symm same)]
    rfl

theorem outputFindings_cons (expected : List ExpectedOutput) (line : List Char)
    (lines : List (List Char)) :
    outputFindings expected (line :: lines) =
      (outputFinding? line expected.head?).toList ++ outputFindings expected.tail lines := by
  have later : (lines.zipIdx 1).filterMap (fun (line, place) =>
      outputFinding? line expected[place]?) = outputFindings expected.tail lines := by
    rw [List.zipIdx_succ, List.filterMap_map]
    unfold outputFindings
    congr 1
    funext (line, place)
    simp only [Function.comp_apply, List.getElem?_tail]
  unfold outputFindings at later ⊢
  rw [List.zipIdx_cons, List.filterMap_cons, List.head?_eq_getElem?, ← later]
  cases found : outputFinding? line expected[0]? <;> simp only [found] <;> rfl

theorem outputFailures_eq (expected : List ExpectedOutput) (lines : List (List Char)) :
    outputFailures expected lines = (outputFindings expected lines).map Finding.failure := by
  induction lines generalizing expected with
  | nil =>
    cases expected <;> rfl
  | cons line lines ih =>
    rw [outputFindings_cons, List.map_append, ← ih]
    cases expected with
    | nil => rfl
    | cons first rest =>
      simp only [outputFailures, List.head?_cons, List.tail_cons, outputFinding?]
      congr 1
      split <;> rfl

end Verdict

/-! ## How many lines they repeat -/

/-- Findings that repeat the first ten of some lines, and count the others in one mark. -/
structure Capped (findings : List Finding) (lines : List (List Char)) : Prop where
  repeated : findings.flatMap Finding.repeated = lines.take 10
  marks : findings.flatMap Finding.marks = if lines.length > 10 then [lines.length - 10] else []

theorem Capped.length_le {findings : List Finding} {lines : List (List Char)}
    (h : Capped findings lines) : (findings.flatMap Finding.repeated).length ≤ 10 := by
  rw [h.repeated, List.length_take]
  omega

theorem capped_nil : Capped [] [] := ⟨rfl, rfl⟩

theorem flatMap_streamFindings {α : Type} (view : Finding → List α)
    (unexpected : List (List Char)) (unreported : List String) :
    (streamFindings unexpected unreported).flatMap view =
      (unexpected.take 10).flatMap (fun line => view (.unexpected line)) ++
        (if unexpected.length > 10 then view (.further (unexpected.length - 10)) else []) ++
        unreported.flatMap fun error => view (.unreported error) := by
  have mark : (if unexpected.length > 10 then [Finding.further (unexpected.length - 10)]
      else []).flatMap view =
      if unexpected.length > 10 then view (.further (unexpected.length - 10)) else [] := by
    split
    · exact List.flatMap_singleton _ _
    · rfl
  rw [streamFindings, List.flatMap_append, List.flatMap_append, List.flatMap_map,
    List.flatMap_map, mark]

theorem capped_streamFindings (unexpected : List (List Char)) (unreported : List String) :
    Capped (streamFindings unexpected unreported) unexpected := by
  constructor
  · rw [flatMap_streamFindings]
    simp [Finding.repeated]
  · have lines : (unexpected.take 10).flatMap (fun line => (Finding.unexpected line).marks) = [] :=
      List.flatMap_eq_nil_iff.mpr fun _ _ => rfl
    have errors : unreported.flatMap (fun error => (Finding.unreported error).marks) = [] :=
      List.flatMap_eq_nil_iff.mpr fun _ _ => rfl
    rw [flatMap_streamFindings, lines, errors, List.append_nil, List.nil_append]
    rfl

theorem capped_noTrace (lines : List (List Char)) : Capped [.noTrace lines] lines :=
  ⟨List.flatMap_singleton _ _, List.flatMap_singleton _ _⟩

theorem capped_exitCodeFindings (e : Expectations) (o : Output) :
    Capped (e.exitCodeFindings o)
      (if o.exitCode = e.exitCode then [] else outputLines o.stderr.toList) := by
  unfold Expectations.exitCodeFindings
  by_cases same : o.exitCode = e.exitCode
  · rw [if_pos same, if_pos same]
    exact ⟨rfl, rfl⟩
  · rw [if_neg same, if_neg same]
    exact ⟨List.flatMap_singleton _ _, List.flatMap_singleton _ _⟩

theorem outputFinding?_eq_none_iff {line : List Char} {expected : Option ExpectedOutput} :
    outputFinding? line expected = none ↔
      expected.map ExpectedOutput.text = some (String.ofList line) := by
  cases expected with
  | none => simp [outputFinding?]
  | some one => simp [outputFinding?]

theorem repeated_of_outputFinding? {line : List Char} {expected : Option ExpectedOutput}
    {f : Finding} (h : outputFinding? line expected = some f) :
    f.repeated = [line] ∧ f.marks = [] := by
  cases expected with
  | none =>
    obtain rfl := Option.some.inj h
    exact ⟨rfl, rfl⟩
  | some one =>
    simp only [outputFinding?] at h
    split at h
    · cases h
    · obtain rfl := Option.some.inj h
      exact ⟨rfl, rfl⟩

/-- The check of the output lines repeats every line that differs. -/
theorem repeated_outputFindings (expected : List ExpectedOutput) (lines : List (List Char)) :
    (outputFindings expected lines).flatMap Finding.repeated = differing expected lines := by
  unfold outputFindings differing
  induction lines.zipIdx with
  | nil => rfl
  | cons entry entries ih =>
    obtain ⟨line, place⟩ := entry
    rw [List.filterMap_cons, List.filter_cons]
    cases found : outputFinding? line expected[place]? with
    | none =>
      have same := outputFinding?_eq_none_iff.mp found
      simp only [found, same]
      simpa using ih
    | some f =>
      have differs : expected[place]?.map ExpectedOutput.text ≠ some (String.ofList line) := by
        intro same
        rw [outputFinding?_eq_none_iff.mpr same] at found
        cases found
      simp only [found, List.flatMap_cons, (repeated_of_outputFinding? found).1, ih]
      simp [differs]

theorem marks_outputFindings (expected : List ExpectedOutput) (lines : List (List Char)) :
    (outputFindings expected lines).flatMap Finding.marks = [] := by
  rw [List.flatMap_eq_nil_iff]
  intro f mem
  obtain ⟨entry, -, found⟩ := List.mem_filterMap.mp mem
  exact (repeated_of_outputFinding? found).2

theorem length_dropBlankTail_le (lines : List (List Char)) :
    (dropBlankTail lines).length ≤ lines.length := by
  unfold dropBlankTail
  split
  · rw [List.length_dropLast]
    omega
  · exact Nat.le_refl _

/-- An error stream with another first line, and after it ten lines or more, none of them a
frame. -/
structure Overfull (message : String) (lines : List (List Char)) : Prop where
  first : lines.head?.map String.ofList ≠ some message
  untraced : ∀ line ∈ lines.tail, ¬ Diagnostic.HasFrame line
  long : 10 ≤ lines.tail.length

/-- One line at most comes before the lines of the trace. -/
theorem traceFindings_split (message : String) (lines : List (List Char)) :
    ∃ opening rest, traceFindings message lines = opening ++ rest ∧
      (opening.flatMap Finding.repeated).length ≤ 1 ∧ opening.flatMap Finding.marks = [] ∧
      (Capped rest [] ∨ Capped rest lines.tail) := by
  cases lines with
  | nil => exact ⟨[], [], rfl, Nat.zero_le 1, rfl, Or.inl capped_nil⟩
  | cons first trace =>
    refine ⟨_, _, rfl, ?_, ?_, ?_⟩
    · split
      · exact Nat.zero_le 1
      · exact Nat.le_refl 1
    · split <;> rfl
    · split
      · exact Or.inl capped_nil
      · exact Or.inr (capped_noTrace trace)

theorem not_overfull_nil (message : String) : ¬ Overfull message [] :=
  fun overfull => Nat.not_succ_le_zero 9 overfull.long

theorem overfull_cons_iff {message : String} {first : List Char} {trace : List (List Char)} :
    Overfull message (first :: trace) ↔
      String.ofList first ≠ message ∧ trace.any Diagnostic.isFrame = false ∧
        10 ≤ trace.length := by
  have first_iff : (first :: trace).head?.map String.ofList ≠ some message ↔
      String.ofList first ≠ message := by
    simp
  have untraced_iff : (∀ line ∈ (first :: trace).tail, ¬ Diagnostic.HasFrame line) ↔
      trace.any Diagnostic.isFrame = false := by
    simp [← Diagnostic.isFrame_iff]
  constructor
  · rintro ⟨other, untraced, long⟩
    exact ⟨first_iff.mp other, untraced_iff.mp untraced, long⟩
  · rintro ⟨other, untraced, long⟩
    exact ⟨first_iff.mpr other, untraced_iff.mpr untraced, long⟩

theorem length_repeated_traceFindings_cons (message : String) (first : List Char)
    (trace : List (List Char)) :
    ((traceFindings message (first :: trace)).flatMap Finding.repeated).length =
      (if String.ofList first = message then 0 else 1) +
        if trace.any Diagnostic.isFrame = true then 0 else min 10 trace.length := by
  simp only [traceFindings, List.flatMap_append, List.length_append]
  congr 1
  · split <;> rfl
  · split
    · rfl
    · simp [Finding.repeated]

theorem repeated_traceFindings_within_iff (message : String) (lines : List (List Char)) :
    ((traceFindings message lines).flatMap Finding.repeated).length ≤ 10 ↔
      ¬ Overfull message lines := by
  cases lines with
  | nil =>
    constructor
    · intro _
      exact not_overfull_nil message
    · intro _
      exact Nat.zero_le 10
  | cons first trace =>
    rw [length_repeated_traceFindings_cons, overfull_cons_iff]
    by_cases same : String.ofList first = message
    · rw [if_pos same]
      constructor
      · intro _ overfull
        exact overfull.1 same
      · intro _
        split <;> omega
    · rw [if_neg same]
      by_cases framed : trace.any Diagnostic.isFrame = true
      · rw [if_pos framed]
        simp [framed]
      · have unframed : trace.any Diagnostic.isFrame = false := by
          simpa using framed
        rw [if_neg framed]
        simp only [same, unframed, ne_eq, not_false_eq_true, true_and]
        omega

/-! ## The report -/

/-- What the failures of a verdict repeat, check by check. -/
structure Expectations.Repeats (e : Expectations) (o : Output) : Prop where
  told : e.judge o = (e.findings o).flatten.map Finding.failure
  shown : ∀ check ∈ e.findings o, ∀ finding ∈ check, finding.IsShown
  compileErrors : e.runtimeError = none → Capped (e.stderrFindings o.stderr)
    ((outputLines o.stderr.toList).filter fun line => IsUnexpected e.errors line)
  runtimeError : e.runtimeError ≠ none → ∃ opening rest,
    e.stderrFindings o.stderr = opening ++ rest ∧
      (opening.flatMap Finding.repeated).length ≤ 1 ∧ opening.flatMap Finding.marks = [] ∧
      (Capped rest [] ∨ Capped rest (outputLines o.stderr.toList).tail)
  exitCode : Capped (e.exitCodeFindings o)
    (if o.exitCode = e.exitCode then [] else outputLines o.stderr.toList)
  output : (outputFindings e.output (outputLines o.stdout.toList)).flatMap Finding.repeated =
    differing e.output (outputLines o.stdout.toList)
  output_marks : (outputFindings e.output (outputLines o.stdout.toList)).flatMap Finding.marks = []

namespace Expectations

theorem judge_eq_findings (e : Expectations) (o : Output) :
    e.judge o = (e.findings o).flatten.map Finding.failure := by
  rw [judge_of_stderrFailures (Verdict.stderrFailures?_eq e o.stderr),
    Verdict.exitCodeFailures_eq, Verdict.outputFailures_eq, ← List.map_append, ← List.map_append]
  simp only [findings, List.flatten_cons, List.flatten_nil, List.append_nil, List.append_assoc]

theorem repeats (e : Expectations) (o : Output) : e.Repeats o := by
  constructor
  · exact judge_eq_findings e o
  · intro check _ finding _
    exact finding.isShown
  · intro no_runtime
    unfold stderrFindings
    rw [no_runtime]
    exact capped_streamFindings _ _
  · intro some_runtime
    obtain ⟨expected, expects⟩ := Option.ne_none_iff_exists'.mp some_runtime
    unfold stderrFindings
    rw [expects]
    by_cases ended : '\n' ∈ o.stderr.toList
    · simp only [if_pos ended]
      exact traceFindings_split _ _
    · simp only [if_neg ended]
      exact ⟨[.noRuntimeError expected.message], [], rfl, Nat.zero_le 1, rfl, Or.inl capped_nil⟩
  · exact capped_exitCodeFindings e o
  · exact repeated_outputFindings _ _
  · exact marks_outputFindings _ _

theorem stderr_within_iff (e : Expectations) (stderr : String) :
    ((e.stderrFindings stderr).flatMap Finding.repeated).length ≤ 10 ↔
      ∀ r, e.runtimeError = some r → ¬ Overfull r.message (outputLines stderr.toList) := by
  unfold stderrFindings
  cases expects : e.runtimeError with
  | none =>
    have within := (capped_streamFindings
      ((outputLines stderr.toList).filter fun line => IsUnexpected e.errors line)
      (e.errors.filter fun error => IsUnreported (outputLines stderr.toList) error)).length_le
    simpa using within
  | some expected =>
    simp only [Option.some.injEq, forall_eq']
    by_cases ended : '\n' ∈ stderr.toList
    · rw [if_pos ended]
      exact repeated_traceFindings_within_iff _ _
    · rw [if_neg ended]
      have one : (outputPieces stderr.toList).length = 1 := by
        rw [length_outputPieces, List.count_eq_zero.mpr ended]
      have short : (outputLines stderr.toList).length ≤ 1 := by
        rw [← one]
        exact length_dropBlankTail_le _
      constructor
      · intro _ overfull
        have long := overfull.long
        rw [List.length_tail] at long
        omega
      · intro _
        exact Nat.zero_le 10

/-- What a verdict repeats of an output, and when no check repeats more than ten lines: ten output
lines at most differ, and an error stream without its trace does not begin with another line. -/
theorem repeated_within_iff (e : Expectations) (o : Output) :
    e.Repeats o ∧
      ((∀ check ∈ e.findings o, (check.flatMap Finding.repeated).length ≤ 10) ↔
        (differing e.output (outputLines o.stdout.toList)).length ≤ 10 ∧
          ∀ r, e.runtimeError = some r →
            ¬ Overfull r.message (outputLines o.stderr.toList)) := by
  refine ⟨e.repeats o, ?_⟩
  have exit := (capped_exitCodeFindings e o).length_le
  simp only [findings, List.forall_mem_cons, List.not_mem_nil, false_imp_iff, implies_true,
    and_true, exit, true_and, stderr_within_iff, repeated_outputFindings]
  exact and_comm

/-- Eleven output lines that nobody expects are all repeated, and so are the first line of an error
stream and ten lines without a frame. -/
theorem repeated_within_iff_eleven :
    let o : Output := { stdout := String.ofList (unlines (List.replicate 11 "1".toList)) }
    let boom : Expectations := { runtimeError := some ⟨1, "Boom."⟩, exitCode := 70 }
    let o' : Output := { stderr := "Bang.\n" ++ String.ofList (unlines (List.replicate 10 ['1'])) }
    (¬ ∀ check ∈ findings {} o, (check.flatMap Finding.repeated).length ≤ 10) ∧
      ¬ ∀ check ∈ findings boom o', (check.flatMap Finding.repeated).length ≤ 10 := by
  intro o boom o'
  have lines : outputLines o'.stderr.toList = "Bang.".toList :: List.replicate 10 ['1'] := by
    decide +kernel
  constructor
  · intro within
    have few := ((repeated_within_iff {} o).2.mp within).1
    revert few
    decide +kernel
  · intro within
    refine ((repeated_within_iff boom o').2.mp within).2 ⟨1, "Boom."⟩ rfl ?_
    rw [lines]
    constructor
    · decide
    · intro line mem
      obtain rfl := List.eq_of_mem_replicate mem
      rw [← Diagnostic.isFrame_iff]
      decide
    · decide

end Expectations

end Conformance

import Conformance.Proofs.Expected
import Conformance.Proofs.Outcome
import Conformance.Proofs.Verdict
import Conformance.Report.Colored

/-! # Reports line by line

No failure holds a newline, neither in its headline nor in its context: what fixtures expect and
what interpreters print are both cut into lines first. So the text of a failure is cut into its
lines again, and in a text report a fixture that failed takes one line for each of them.
-/

namespace Conformance

open Conformance.Text

/-! ## Texts of one line -/

def IsOneLine (text : String) : Prop := '\n' ∉ text.toList

instance (text : String) : Decidable (IsOneLine text) :=
  inferInstanceAs (Decidable ('\n' ∉ text.toList))

theorem isOneLine_append {s t : String} : IsOneLine (s ++ t) ↔ IsOneLine s ∧ IsOneLine t := by
  simp [IsOneLine]

theorem IsOneLine.append {s t : String} (h : IsOneLine s) (k : IsOneLine t) : IsOneLine (s ++ t) :=
  isOneLine_append.mpr ⟨h, k⟩

theorem isOneLine_ofList {line : List Char} (h : '\n' ∉ line) : IsOneLine (String.ofList line) := by
  rwa [IsOneLine, String.toList_ofList]

theorem isOneLine_toString (n : Nat) : IsOneLine (toString n) :=
  (isNumber_toString n).not_mem (by decide)

theorem isOneLine_toString_int (n : Int) : IsOneLine (toString n) := by
  cases n with
  | ofNat n => exact isOneLine_toString n
  | negSucc n =>
    rw [Int.toString_eq_repr, Int.repr]
    exact .append (by decide) (isOneLine_toString _)

/-- A failure whose headline and context are lines. -/
def Failure.IsByLine (f : Failure) : Prop := ∀ line ∈ f.lines, IsOneLine line

theorem Failure.isByLine_mk {message : String} {context : List String} (h : IsOneLine message)
    (k : ∀ line ∈ context, IsOneLine line) : IsByLine ⟨message, context⟩ :=
  List.forall_mem_cons.mpr ⟨h, k⟩

theorem Failure.isByLine_of_message {message : String} (h : IsOneLine message) :
    IsByLine { message } :=
  isByLine_mk h nofun

theorem Failure.isOneLine_truncationMark (hidden : Nat) : IsOneLine (truncationMark hidden) :=
  .append (.append (by decide) (isOneLine_toString hidden)) (by decide)

theorem Failure.isOneLine_of_mem_shown {lines : List (List Char)} (h : ∀ line ∈ lines, '\n' ∉ line)
    {entry : String} (mem : entry ∈ shown lines) : IsOneLine entry := by
  have first : entry ∈ (lines.take maxReportedLines).map String.ofList → IsOneLine entry := by
    intro mem
    obtain ⟨line, taken, rfl⟩ := List.mem_map.mp mem
    exact isOneLine_ofList (h line (List.mem_of_mem_take taken))
  unfold shown at mem
  split at mem
  · rcases List.mem_append.mp mem with mem | mem
    · exact first mem
    · rw [List.mem_singleton.mp mem]
      exact isOneLine_truncationMark _
  · exact first mem

theorem Binary64.isOneLine_onePlace (r : Ratio) : IsOneLine (onePlace r) :=
  .append (.append (isOneLine_toString _) (by decide)) (isOneLine_toString _)

theorem Failure.isByLine_timedOut (after : Duration) (stderr : String) :
    (timedOut after stderr).IsByLine := by
  refine isByLine_mk ?_ fun line mem => ?_
  · exact .append (.append (by decide) (Binary64.isOneLine_onePlace _)) (by decide)
  · refine isOneLine_of_mem_shown (fun line among => ?_) mem
    exact (isOutputLine_of_mem_outputLines among).no_newline

/-! ## Failures of a verdict -/

structure Expectations.IsByLine (e : Expectations) : Prop where
  output : ∀ expected ∈ e.output, IsOneLine expected.text
  errors : ∀ error ∈ e.errors, IsOneLine error
  runtimeError : ∀ expected, e.runtimeError = some expected → IsOneLine expected.message

theorem Diagnostic.IsAsked.isOneLine {d : Diagnostic} (asked : d.IsAsked) :
    IsOneLine d.normalForm := by
  have digits : '\n' ∉ d.line := asked.line.not_mem (by decide)
  simp [IsOneLine, toList_normalForm, body, digits, asked.no_newline]

theorem Fixture.isByLine_of_read {options : ReadingOptions} {path source : String}
    {e : Expectations} (h : read options path source = .ok e) : e.IsByLine := by
  constructor
  · intro expected mem
    exact text_of_mem_output h mem
  · intro error mem
    obtain ⟨d, asked, rfl⟩ := isAsked_of_mem_errors h mem
    exact asked.isOneLine
  · intro expected expects
    exact (message_of_mem_runtimeError h expects).2

namespace Verdict

variable {pieces : List (List Char)} {f : Failure}

theorem isByLine_runtimeFailures? {message : String} {failures : List Failure}
    (one : IsOneLine message) (lines : ∀ piece ∈ pieces, '\n' ∉ piece)
    (h : runtimeFailures? message pieces = some failures) (mem : f ∈ failures) : f.IsByLine := by
  unfold runtimeFailures? at h
  split at h
  · obtain rfl := Option.some.inj h
    rw [List.mem_singleton.mp mem]
    exact Failure.isByLine_of_message (.append (.append (by decide) one) (by decide))
  · split at h
    · cases h
    · next first trace split =>
      have kept : ∀ line ∈ first :: trace, '\n' ∉ line := fun line among =>
        lines line (mem_of_mem_dropBlankTail (split ▸ among))
      obtain rfl := Option.some.inj h
      rcases List.mem_append.mp mem with mem | mem
      · split at mem
        · cases mem
        · rw [List.mem_singleton.mp mem]
          refine Failure.isByLine_mk (.append (.append (by decide) one) (by decide)) ?_
          intro line among
          rw [List.mem_singleton.mp among]
          exact isOneLine_ofList (kept first List.mem_cons_self)
      · split at mem
        · cases mem
        · rw [List.mem_singleton.mp mem]
          refine Failure.isByLine_mk (by decide) fun line among => ?_
          exact Failure.isOneLine_of_mem_shown
            (fun line among => kept line (List.mem_cons_of_mem _ among)) among

theorem isByLine_compileFailures {errors : List String} (one : ∀ error ∈ errors, IsOneLine error)
    (lines : ∀ piece ∈ pieces, '\n' ∉ piece) (mem : f ∈ compileFailures errors pieces) :
    f.IsByLine := by
  rw [compileFailures_eq] at mem
  rcases List.mem_append.mp mem with mem | mem
  · rcases List.mem_append.mp mem with mem | mem
    · obtain ⟨line, among, rfl⟩ := List.mem_map.mp mem
      have printed := mem_of_mem_dropBlankTail (List.mem_filter.mp (List.mem_of_mem_take among)).1
      refine Failure.isByLine_mk (by decide) fun entry shown => ?_
      rw [List.mem_singleton.mp shown]
      exact isOneLine_ofList (lines line printed)
    · split at mem
      · rw [List.mem_singleton.mp mem]
        exact Failure.isByLine_of_message (Failure.isOneLine_truncationMark _)
      · cases mem
  · obtain ⟨error, among, rfl⟩ := List.mem_map.mp mem
    have known := one error (List.mem_filter.mp among).1
    exact Failure.isByLine_of_message (.append (by decide) known)

theorem isByLine_exitCodeFailures {expected actual : Int} (lines : ∀ piece ∈ pieces, '\n' ∉ piece)
    (mem : f ∈ exitCodeFailures expected actual pieces) : f.IsByLine := by
  unfold exitCodeFailures at mem
  split at mem
  · cases mem
  · rw [List.mem_singleton.mp mem]
    refine Failure.isByLine_mk ?_ fun line among => ?_
    · have codes := And.intro (isOneLine_toString_int expected) (isOneLine_toString_int actual)
      exact .append (.append (.append (.append (by decide) codes.1) (by decide)) codes.2)
        (by decide)
    · exact Failure.isOneLine_of_mem_shown
        (fun line among => lines line (mem_of_mem_dropBlankTail among)) among

theorem isByLine_outputFailures {expected : List ExpectedOutput} {lines : List (List Char)}
    (asked : ∀ one ∈ expected, IsOneLine one.text) (printed : ∀ line ∈ lines, '\n' ∉ line)
    (mem : f ∈ outputFailures expected lines) : f.IsByLine := by
  induction lines generalizing expected with
  | nil => cases expected <;> cases mem
  | cons line lines ih =>
    have here : IsOneLine (String.ofList line) := isOneLine_ofList (printed line List.mem_cons_self)
    have later : ∀ line ∈ lines, '\n' ∉ line := fun other among =>
      printed other (List.mem_cons_of_mem _ among)
    cases expected with
    | nil =>
      rcases List.mem_cons.mp mem with rfl | mem
      · exact Failure.isByLine_of_message (.append (.append (by decide) here) (by decide))
      · exact ih asked later mem
    | cons first rest =>
      have text := asked first List.mem_cons_self
      rcases List.mem_append.mp mem with mem | mem
      · split at mem
        · cases mem
        · rw [List.mem_singleton.mp mem]
          have number := isOneLine_toString first.line
          refine Failure.isByLine_of_message ?_
          simp only [isOneLine_append]
          refine ⟨⟨⟨⟨⟨⟨?_, text⟩, ?_⟩, number⟩, ?_⟩, here⟩, ?_⟩ <;> decide
      · exact ih (fun one among => asked one (List.mem_cons_of_mem _ among)) later mem

end Verdict

theorem Expectations.IsByLine.judge {e : Expectations} (h : e.IsByLine) {o : Output} {f : Failure}
    (mem : f ∈ e.judge o) : f.IsByLine := by
  have printed {text : List Char} : ∀ piece ∈ outputPieces text, '\n' ∉ piece := fun _ among =>
    (isOutputLine_of_mem_outputPieces among).no_newline
  obtain ⟨failures, checked⟩ := Option.isSome_iff_exists.mp
    (Verdict.stderrFailures?_isSome e (outputPieces o.stderr.toList))
  rw [judge_of_stderrFailures checked] at mem
  rcases List.mem_append.mp mem with mem | mem
  · rcases List.mem_append.mp mem with mem | mem
    · unfold Verdict.stderrFailures? at checked
      split at checked
      · next expected expects =>
        exact Verdict.isByLine_runtimeFailures? (h.runtimeError expected expects) printed checked mem
      · obtain rfl := Option.some.inj checked
        exact Verdict.isByLine_compileFailures h.errors printed mem
    · exact Verdict.isByLine_exitCodeFailures printed mem
  · refine Verdict.isByLine_outputFailures h.output (fun line among => ?_) mem
    exact printed line (mem_of_mem_dropBlankTail among)

/-- A failure that a judge finds in the output of an interpreter, or that is told when its time
is up. -/
inductive Failure.IsTold : Failure → Prop
  | judged {options : ReadingOptions} {path source : String} {e : Expectations} {o : Output}
    {f : Failure} (read : Fixture.read options path source = .ok e) (mem : f ∈ e.judge o) : IsTold f
  | timedOut (after : Duration) (stderr : String) : IsTold (timedOut after stderr)

theorem Failure.IsTold.isByLine {f : Failure} (h : f.IsTold) : f.IsByLine := by
  cases h with
  | judged read mem => exact (Fixture.isByLine_of_read read).judge mem
  | timedOut after stderr => exact isByLine_timedOut after stderr

theorem Suite.isTold_of_runFixture {World : Type} {s : Suite} {m : Machine World}
    {codes : ExitCodes} {path : String} {w w' : World} {failures : List Failure}
    (run : s.runFixture m codes path w = .ok (.ok failures, w')) {f : Failure}
    (mem : f ∈ failures) : f.IsTold := by
  rcases runFixture_cases run with ⟨fault, -, failed⟩ | ⟨e, expects, ⟨fault, -, failed⟩ | started⟩
  · cases failed
  · cases failed
  · obtain ⟨b, waited, stdout, stderr, -, -, -, same⟩ := started
    cases waited with
    | lost => cases same
    | expired time =>
      obtain rfl := Except.ok.inj same
      rw [List.mem_singleton.mp mem]
      exact .timedOut _ _
    | ended time status =>
      cases status with
      | exited code =>
        obtain rfl := Except.ok.inj same
        unfold Expects Fixture.load at expects
        split at expects
        · exact .judged expects mem
        · cases expects
      | signaled signal => cases same
      | unknown => cases same

/-! ## Failures and their texts -/

/-- The text of a failure is cut into its lines, also where a line of the context is blank. -/
theorem Failure.splitOn_text {f : Failure} (h : f.IsByLine) :
    f.text.toList.splitOn '\n' = f.lines.map String.toList := by
  have newline : "\n".toList = ['\n'] := rfl
  rw [text, String.toList_intercalate, newline]
  apply List.splitOn_intercalate
  · intro line mem
    obtain ⟨entry, among, rfl⟩ := List.mem_map.mp mem
    exact h entry among
  · rw [lines, List.map_cons]
    exact List.cons_ne_nil _ _

/-! ## Blocks of a text report -/

/-- A text in which every line is ended. -/
def IsClosed (text : List Char) : Prop :=
  ∃ lines : List (List Char), (∀ line ∈ lines, '\n' ∉ line) ∧ text = unlines lines

theorem isClosed_nil : IsClosed [] := ⟨[], nofun, rfl⟩

theorem isClosed_concat (text : List Char) : IsClosed (text ++ ['\n']) :=
  ⟨pieces text, fun _ mem => not_mem_of_mem_pieces mem, (unlines_pieces text).symm⟩

theorem IsClosed.append {text more : List Char} (h : IsClosed text) (k : IsClosed more) :
    IsClosed (text ++ more) := by
  obtain ⟨lines, single, rfl⟩ := h
  obtain ⟨others, single', rfl⟩ := k
  refine ⟨lines ++ others, ?_, (unlines_append lines others).symm⟩
  exact List.forall_mem_append.mpr ⟨single, single'⟩

/-- A text behind ended lines begins a line of its own. -/
theorem IsClosed.splitOn_append {text : List Char} (h : IsClosed text) (more : List Char) :
    (text ++ more).splitOn '\n' = (text.splitOn '\n').dropLast ++ more.splitOn '\n' := by
  obtain ⟨lines, single, rfl⟩ := h
  simp only [← pieces_eq_splitOn]
  rw [pieces_unlines_append single, pieces_unlines single, List.dropLast_concat]

namespace Segment

def textOf (segments : List Segment) : List Char :=
  segments.flatMap fun segment => segment.text.toList

theorem textOf_append (segments others : List Segment) :
    textOf (segments ++ others) = textOf segments ++ textOf others := List.flatMap_append

theorem isClosed_textOf_concat (segments : List Segment) {last : Segment}
    (h : last.text.toList.getLast? = some '\n') : IsClosed (textOf (segments ++ [last])) := by
  obtain ⟨front, text⟩ := List.getLast?_eq_some_iff.mp h
  have ended : textOf [last] = front ++ ['\n'] := by
    rw [textOf, List.flatMap_singleton, text]
  rw [textOf_append, ended, ← List.append_assoc]
  exact isClosed_concat _

theorem isClosed_textOf_flatMap {α : Type} {f : α → List Segment} {items : List α}
    (h : ∀ item ∈ items, IsClosed (textOf (f item))) : IsClosed (textOf (items.flatMap f)) := by
  induction items with
  | nil => exact isClosed_nil
  | cons item items ih =>
    rw [List.flatMap_cons, textOf_append]
    have ⟨first, rest⟩ := List.forall_mem_cons.mp h
    exact first.append (ih rest)

end Segment

open Segment (textOf textOf_append isClosed_textOf_concat isClosed_textOf_flatMap)

namespace FixtureReport

def failedLines (path : String) (failures : List Failure) : List String :=
  ("FAIL: " ++ path) :: (failures.flatMap Failure.lines).map ("  " ++ ·) ++ [""]

theorem isOneLine_of_mem_failedLines {path : String} {failures : List Failure}
    (h : IsOneLine path) (told : ∀ f ∈ failures, f.IsByLine) {line : String}
    (mem : line ∈ failedLines path failures) : IsOneLine line := by
  rcases List.mem_append.mp mem with mem | mem
  · rcases List.mem_cons.mp mem with rfl | mem
    · exact .append (by decide) h
    · obtain ⟨entry, among, rfl⟩ := List.mem_map.mp mem
      obtain ⟨f, failed, among⟩ := List.mem_flatMap.mp among
      exact .append (by decide) (told f failed entry among)
  · rw [List.mem_singleton.mp mem]
    decide

theorem textOf_segments_failed (showPassed : Bool) (path : String) (failures : List Failure) :
    textOf (segments showPassed ⟨path, .failed failures⟩) =
      unlines ((failedLines path failures).map String.toList) := by
  simp [segments, failedLines, textOf, unlines, Segment.text, List.flatMap_assoc, List.flatMap_map]

theorem isClosed_segments (showPassed : Bool) (f : FixtureReport) :
    IsClosed (textOf (f.segments showPassed)) := by
  obtain ⟨path, outcome⟩ := f
  cases outcome with
  | passed =>
    simp only [segments]
    split
    · exact isClosed_textOf_concat [_] (by simp [Segment.text, List.getLast?_cons])
    · exact isClosed_nil
  | failed failures => exact isClosed_textOf_concat _ (by decide)
  | error kind message => exact isClosed_textOf_concat [_, _, _] (by decide)
  | skipped reason =>
    simp only [segments]
    split
    · exact isClosed_textOf_concat [_] (by simp [Segment.text, List.getLast?_cons])
    · exact isClosed_nil

end FixtureReport

theorem Tally.isClosed_segments (t : Tally) : IsClosed (textOf t.segments) :=
  isClosed_textOf_concat _ (by decide)

theorem SuiteReport.isClosed_front (showPassed : Bool) (name : String)
    (fixtures : List FixtureReport) :
    IsClosed (textOf (.plain ("====== Suite: " ++ name ++ " ======\n") ::
      fixtures.flatMap (FixtureReport.segments showPassed))) := by
  rw [← List.singleton_append, textOf_append]
  apply IsClosed.append
  · exact isClosed_textOf_concat [] (by simp [Segment.text, List.getLast?_cons])
  · exact isClosed_textOf_flatMap fun f _ => f.isClosed_segments showPassed

theorem SuiteReport.isClosed_segments (showPassed : Bool) (s : SuiteReport) :
    IsClosed (textOf (s.segments showPassed)) := by
  rw [segments, textOf_append]
  apply (isClosed_front showPassed s.name s.fixtures).append
  unfold summary
  split
  · exact isClosed_textOf_concat [_, _] (by decide)
  · exact s.tally.isClosed_segments

theorem RunReport.toList_text (showPassed : Bool) (r : RunReport) :
    (r.text showPassed).toList = textOf (r.segments showPassed) := by
  rw [text, String.toList_join, List.flatMap_map, textOf]

/-- In front of a fixture stand whole lines. -/
theorem SuiteReport.segments_of_mem (showPassed : Bool) {s : SuiteReport} {f : FixtureReport}
    (mem : f ∈ s.fixtures) :
    ∃ front back, s.segments showPassed = front ++ f.segments showPassed ++ back ∧
      IsClosed (textOf front) := by
  obtain ⟨earlier, later, fixtures⟩ := List.append_of_mem mem
  refine ⟨_, later.flatMap (FixtureReport.segments showPassed) ++ s.summary, ?_,
    isClosed_front showPassed s.name earlier⟩
  simp only [segments, fixtures, List.flatMap_append, List.flatMap_cons, List.cons_append,
    List.append_assoc]

theorem RunReport.segments_of_mem (showPassed : Bool) {r : RunReport} {s : SuiteReport}
    {f : FixtureReport} (mem : s ∈ r.suites) (among : f ∈ s.fixtures) :
    ∃ front back, r.segments showPassed = front ++ f.segments showPassed ++ back ∧
      IsClosed (textOf front) := by
  obtain ⟨before, after, suites⟩ := List.append_of_mem mem
  obtain ⟨front, back, split, closed⟩ := SuiteReport.segments_of_mem showPassed among
  obtain ⟨totals, run⟩ : ∃ totals, r.segments showPassed =
      r.suites.flatMap (SuiteReport.segments showPassed) ++ totals := ⟨_, rfl⟩
  refine ⟨before.flatMap (SuiteReport.segments showPassed) ++ front,
    back ++ after.flatMap (SuiteReport.segments showPassed) ++ totals, ?_, ?_⟩
  · rw [run, suites, List.flatMap_append, List.flatMap_cons, split]
    simp only [List.append_assoc]
  · rw [textOf_append]
    exact (isClosed_textOf_flatMap fun s _ => s.isClosed_segments showPassed).append closed

/-- No failure goes over a line, so its text is cut into its lines, and in a text report a fixture
that failed is one line with its path, one for each line of its failures and a blank one. -/
theorem Failure.reported_by_lines {failures : List Failure} (told : ∀ f ∈ failures, f.IsTold) :
    (∀ f ∈ failures, f.IsByLine ∧ f.text.toList.splitOn '\n' = f.lines.map String.toList) ∧
    ∀ path, IsOneLine path → ∀ showPassed,
      let fixture : FixtureReport := ⟨path, .failed failures⟩
      let block := (FixtureReport.failedLines path failures).map String.toList
      (textOf (fixture.segments showPassed)).splitOn '\n' = block ++ [[]] ∧
      ∀ (r : RunReport), ∀ s ∈ r.suites, fixture ∈ s.fixtures →
        ∃ front back, r.segments showPassed = front ++ fixture.segments showPassed ++ back ∧
          (r.text showPassed).toList.splitOn '\n' =
            ((textOf front).splitOn '\n').dropLast ++ block ++ (textOf back).splitOn '\n' := by
  have lines : ∀ f ∈ failures, f.IsByLine := fun f mem => (told f mem).isByLine
  refine ⟨fun f mem => ⟨lines f mem, splitOn_text (lines f mem)⟩, fun path one showPassed => ?_⟩
  intro fixture block
  have single : ∀ line ∈ block, '\n' ∉ line := by
    intro line mem
    obtain ⟨entry, among, rfl⟩ := List.mem_map.mp mem
    exact FixtureReport.isOneLine_of_mem_failedLines one lines among
  have text : textOf (fixture.segments showPassed) = unlines block :=
    FixtureReport.textOf_segments_failed showPassed path failures
  refine ⟨?_, fun r s mem among => ?_⟩
  · rw [text, ← pieces_eq_splitOn, pieces_unlines single]
  · obtain ⟨front, back, split, closed⟩ := RunReport.segments_of_mem showPassed mem among
    refine ⟨front, back, split, ?_⟩
    rw [RunReport.toList_text, split, List.append_assoc, textOf_append, closed.splitOn_append,
      textOf_append, text, ← pieces_eq_splitOn (unlines block ++ textOf back),
      pieces_unlines_append single, pieces_eq_splitOn, List.append_assoc]

theorem Failure.reported_by_lines_mismatch :
    let failure : Failure := { message := "Expected output 'a' on line 1 and got 'b'" }
    let fixture : FixtureReport := ⟨"a.lox", .failed [failure]⟩
    let report : RunReport := ⟨[SuiteReport.ofFixtures "clox" [fixture]]⟩
    failure.IsTold ∧ IsOneLine "a.lox" ∧ failure.text.toList.splitOn '\n' = [failure.text.toList] ∧
      ∃ front back, report.segments false = front ++ fixture.segments false ++ back ∧
        (report.text false).toList.splitOn '\n' =
          ((textOf front).splitOn '\n').dropLast ++
            ["FAIL: a.lox", "  Expected output 'a' on line 1 and got 'b'", ""].map String.toList ++
            (textOf back).splitOn '\n' := by
  intro failure fixture report
  have read : Fixture.read ⟨some "c", {}⟩ "a.lox" "// expect: a" =
      .ok { output := [⟨1, "a"⟩], count := 1 } := rfl
  have judged : failure ∈ Expectations.judge { output := [⟨1, "a"⟩], count := 1 }
      { stdout := "b\n" } := by decide
  have told : failure.IsTold := .judged read judged
  have one : IsOneLine "a.lox" := by decide
  have all : ∀ f ∈ [failure], f.IsTold := List.forall_mem_singleton.mpr told
  have ⟨texts, blocks⟩ := Failure.reported_by_lines all
  refine ⟨told, one, (texts failure List.mem_cons_self).2, ?_⟩
  exact (blocks "a.lox" one false).2 report _ List.mem_cons_self List.mem_cons_self

end Conformance

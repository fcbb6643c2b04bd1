import Conformance.Suite.Run
import Conformance.Proofs.Tree
import Conformance.Proofs.Waiting

/-! # What becomes of a fixture

Running a fixture comes to one of three outcomes. Faults are about the harness: the fixture is not
read, or its interpreter is not started, not awaited, or ends without an exit code. All else is
judged: an interpreter that exits in time passes if there is no failure, and one that overruns its
time limit fails, whatever the kill that follows does to it.
-/

namespace Conformance

namespace Suite

open Process

variable {World : Type} (s : Suite) (m : Machine World) (codes : ExitCodes) (path : String)
  (w : World)

/-- The fixture can be read, and this is what it expects. -/
def Expects (e : Expectations) : Prop :=
  Fixture.load ⟨s.language, codes⟩ (m.files w) path = .ok e

/-- The interpreter can be started on the fixture, and this is what it does. -/
def Starts (b : Behaviour World) : Prop :=
  m.launch w s.interpreter.executable (s.interpreter.arguments path) s.interpreter.timeout =
    some b

/-- The interpreter cannot be started, cannot be waited for, or ends in time without a code. -/
def Breaks : Prop :=
  (∀ b, ¬ s.Starts m path w b) ∨ ∃ b, s.Starts m path w b ∧ b.Breaks s.interpreter.timeout

/-- The interpreter exits in time, with an output. -/
def ExitsWith (o : Output) : Prop :=
  ∃ b, s.Starts m path w b ∧ b.EndsInTime s.interpreter.timeout (.exited o.exitCode) ∧
    b.Captures m.start s.interpreter.timeout o.stdout o.stderr

/-- The time limit passes before the interpreter is seen to end. -/
def Overruns : Prop :=
  ∃ b, s.Starts m path w b ∧ b.Overruns s.interpreter.timeout

/-- An outcome that tells faults from failures. -/
structure IsOutcome (outcome : Outcome) : Prop where
  error : outcome.isError = true ↔ (∀ e, ¬ s.Expects m codes path w e) ∨ s.Breaks m path w
  passed : outcome.isPassed = true ↔
    ∃ e o, s.Expects m codes path w e ∧ s.ExitsWith m path w o ∧ e.judge o = []
  failed : outcome.isFailed = true ↔ ∃ e, s.Expects m codes path w e ∧
    (s.Overruns m path w ∨ ∃ o, s.ExitsWith m path w o ∧ e.judge o ≠ [])
  remaining : outcome.isFailed = true ↔ ¬ outcome.isError = true ∧ ¬ outcome.isPassed = true
  failures : ∀ failures, outcome = .failed failures → failures ≠ []

variable {s m codes path w}

theorem Starts.unique {b b' : Behaviour World} (h : s.Starts m path w b)
    (h' : s.Starts m path w b') : b = b' :=
  Option.some.inj (h.symm.trans h')

theorem Expects.unique {e e' : Expectations} (h : s.Expects m codes path w e)
    (h' : s.Expects m codes path w e') : e = e' :=
  Except.ok.inj (h.symm.trans h')

theorem runFixture_of_unread {fault : Fault}
    (unread : Fixture.load ⟨s.language, codes⟩ (m.files w) path = .error fault) :
    s.runFixture m codes path w = .ok (.error fault, w) := by
  rw [runFixture, unread]

theorem runFixture_of_not_starts {e : Expectations} (expects : s.Expects m codes path w e)
    (idle : ∀ b, ¬ s.Starts m path w b) :
    s.runFixture m codes path w = .ok (.error (.notStarted s.interpreter.executable), w) := by
  have nothing : m.launch w s.interpreter.executable (s.interpreter.arguments path)
      s.interpreter.timeout = none := Option.eq_none_iff_forall_ne_some.mpr idle
  rw [runFixture, expects]
  simp only [Interpreter.run, nothing, Except.map]

theorem runFixture_of_starts {e : Expectations} {b : Behaviour World}
    (expects : s.Expects m codes path w e) (starts : s.Starts m path w b) :
    s.runFixture m codes path w =
      (observe b m.start s.interpreter.timeout path).map fun result =>
        (result.map (failures e), b.after) := by
  rw [runFixture, expects]
  have started : m.launch w s.interpreter.executable (s.interpreter.arguments path)
      s.interpreter.timeout = some b := starts
  simp only [Interpreter.run, started]
  cases observe b m.start s.interpreter.timeout path <;> rfl

/-- What a fixture that is run comes to: it is not read, the interpreter is not started, or it is
waited for. -/
theorem runFixture_cases {result : Except Fault (List Failure)} {w' : World}
    (run : s.runFixture m codes path w = .ok (result, w')) :
    (∃ fault, (∀ e, ¬ s.Expects m codes path w e) ∧ result = .error fault) ∨
      ∃ e, s.Expects m codes path w e ∧
        ((∃ fault, (∀ b, ¬ s.Starts m path w b) ∧ result = .error fault) ∨
          ∃ b waited stdout stderr, s.Starts m path w b ∧
            wait b.ending s.interpreter.timeout = .ok waited ∧
            b.Captures m.start s.interpreter.timeout stdout stderr ∧
            result =
              (waited.result path s.interpreter.timeout stdout stderr).map (failures e)) := by
  cases load : Fixture.load ⟨s.language, codes⟩ (m.files w) path with
  | error fault =>
    rw [runFixture_of_unread load] at run
    obtain ⟨rfl, -⟩ := Prod.mk.inj (Except.ok.inj run)
    refine .inl ⟨fault, fun e expects => ?_, rfl⟩
    cases load.symm.trans expects
  | ok e =>
    refine .inr ⟨e, load, ?_⟩
    by_cases idle : ∀ b, ¬ s.Starts m path w b
    · rw [runFixture_of_not_starts load idle] at run
      obtain ⟨rfl, -⟩ := Prod.mk.inj (Except.ok.inj run)
      exact .inl ⟨_, idle, rfl⟩
    · obtain ⟨b, starts⟩ := Classical.not_forall_not.mp idle
      rw [runFixture_of_starts load starts] at run
      obtain ⟨answer, observed, same⟩ := map_eq_ok_iff.mp run
      obtain ⟨rfl, -⟩ := Prod.mk.inj same
      obtain ⟨waited, stdout, stderr, ends, captures, rfl⟩ :=
        Behaviour.observe_eq_ok_iff.mp observed
      exact .inr ⟨b, waited, stdout, stderr, starts, ends, captures, rfl⟩

theorem exists_runFixture
    (finite : ∀ b, s.Starts m path w b → b.IsFinite m.start s.interpreter.timeout) :
    ∃ result w', s.runFixture m codes path w = .ok (result, w') := by
  cases load : Fixture.load ⟨s.language, codes⟩ (m.files w) path with
  | error fault => exact ⟨_, _, runFixture_of_unread load⟩
  | ok e =>
    by_cases idle : ∀ b, ¬ s.Starts m path w b
    · exact ⟨_, _, runFixture_of_not_starts load idle⟩
    · obtain ⟨b, starts⟩ := Classical.not_forall_not.mp idle
      obtain ⟨answer, observed⟩ := Behaviour.exists_observe (finite b starts) path
      rw [runFixture_of_starts load starts, observed]
      exact ⟨_, _, rfl⟩

theorem Breaks.not_exitsWith {o : Output} (h : s.Breaks m path w) : ¬ s.ExitsWith m path w o := by
  rintro ⟨b, starts, exits, -⟩
  rcases h with idle | ⟨b', starts', breaks⟩
  · exact idle b starts
  · obtain rfl := starts.unique starts'
    exact breaks.not_exits exits

theorem Breaks.not_overruns (h : s.Breaks m path w) : ¬ s.Overruns m path w := by
  rintro ⟨b, starts, overruns⟩
  rcases h with idle | ⟨b', starts', breaks⟩
  · exact idle b starts
  · obtain rfl := starts.unique starts'
    exact breaks.not_overruns overruns

theorem ExitsWith.not_overruns {o : Output} (h : s.ExitsWith m path w o) :
    ¬ s.Overruns m path w := by
  rintro ⟨b, starts, overruns⟩
  obtain ⟨b', starts', exits, -⟩ := h
  obtain rfl := starts.unique starts'
  exact exits.not_overruns overruns

theorem ExitsWith.unique {o o' : Output} (h : s.ExitsWith m path w o)
    (h' : s.ExitsWith m path w o') : o = o' := by
  obtain ⟨b, starts, exits, captures⟩ := h
  obtain ⟨b', starts', exits', captures'⟩ := h'
  obtain rfl := starts.unique starts'
  have code : o.exitCode = o'.exitCode := Status.exited.inj (exits.unique exits')
  obtain ⟨out, err⟩ := captures.unique captures'
  cases o
  cases o'
  simp_all

theorem isFailed_ofResult (result : Except Fault (List Failure)) :
    (Outcome.ofResult result).isFailed = true ↔
      ¬ (Outcome.ofResult result).isError = true ∧ ¬ (Outcome.ofResult result).isPassed = true := by
  rcases result with fault | _ | ⟨failure, failures⟩ <;>
    simp [Outcome.ofResult, Outcome.ofFault, Outcome.isFailed, Outcome.isError, Outcome.isPassed]

theorem ne_nil_of_ofResult {result : Except Fault (List Failure)} {failures : List Failure}
    (h : Outcome.ofResult result = .failed failures) : failures ≠ [] := by
  rcases result with fault | _ | ⟨failure, rest⟩
  · cases h
  · cases h
  · obtain rfl := Outcome.failed.inj h
    exact List.cons_ne_nil failure rest

theorem isOutcome_of_fault (fault : Fault)
    (h : (∀ e, ¬ s.Expects m codes path w e) ∨ s.Breaks m path w) :
    s.IsOutcome m codes path w (Outcome.ofResult (.error fault)) := by
  have breaks {e : Expectations} (expects : s.Expects m codes path w e) : s.Breaks m path w :=
    h.resolve_left fun unread => unread e expects
  constructor
  case error => exact iff_of_true rfl h
  case passed =>
    refine iff_of_false nofun ?_
    rintro ⟨e, o, expects, exits, -⟩
    exact (breaks expects).not_exitsWith exits
  case failed =>
    refine iff_of_false nofun ?_
    rintro ⟨e, expects, overruns | ⟨o, exits, -⟩⟩
    · exact (breaks expects).not_overruns overruns
    · exact (breaks expects).not_exitsWith exits
  case remaining => exact isFailed_ofResult _
  case failures => exact fun _ => ne_nil_of_ofResult

theorem isOutcome_of_exitsWith {e : Expectations} {o : Output}
    (expects : s.Expects m codes path w e) (exits : s.ExitsWith m path w o) :
    s.IsOutcome m codes path w (Outcome.ofResult (.ok (e.judge o))) := by
  have only {e' : Expectations} {o' : Output} (expects' : s.Expects m codes path w e')
      (exits' : s.ExitsWith m path w o') : e'.judge o' = e.judge o := by
    rw [expects'.unique expects, exits'.unique exits]
  have is_passed : (Outcome.ofResult (.ok (e.judge o))).isPassed = true ↔ e.judge o = [] := by
    cases e.judge o <;> simp [Outcome.ofResult, Outcome.isPassed]
  have is_failed : (Outcome.ofResult (.ok (e.judge o))).isFailed = true ↔ e.judge o ≠ [] := by
    cases e.judge o <;> simp [Outcome.ofResult, Outcome.isFailed]
  constructor
  case error =>
    refine iff_of_false (by cases e.judge o <;> nofun) ?_
    rintro (unread | breaks)
    · exact unread e expects
    · exact breaks.not_exitsWith exits
  case passed =>
    rw [is_passed]
    constructor
    · intro passes
      exact ⟨e, o, expects, exits, passes⟩
    · rintro ⟨e', o', expects', exits', passes⟩
      exact (only expects' exits').symm.trans passes
  case failed =>
    rw [is_failed]
    constructor
    · intro fails
      exact ⟨e, expects, .inr ⟨o, exits, fails⟩⟩
    · rintro ⟨e', expects', overruns | ⟨o', exits', fails⟩⟩
      · exact absurd overruns exits.not_overruns
      · rwa [only expects' exits'] at fails
  case remaining => exact isFailed_ofResult _
  case failures => exact fun _ => ne_nil_of_ofResult

theorem isOutcome_of_overruns {e : Expectations} (failure : Failure)
    (expects : s.Expects m codes path w e) (overruns : s.Overruns m path w) :
    s.IsOutcome m codes path w (Outcome.ofResult (.ok [failure])) := by
  constructor
  case error =>
    refine iff_of_false nofun ?_
    rintro (unread | breaks)
    · exact unread e expects
    · exact breaks.not_overruns overruns
  case passed =>
    refine iff_of_false nofun ?_
    rintro ⟨e', o, -, exits, -⟩
    exact exits.not_overruns overruns
  case failed => exact iff_of_true rfl ⟨e, expects, .inl overruns⟩
  case remaining => exact isFailed_ofResult _
  case failures => exact fun _ => ne_nil_of_ofResult

theorem isOutcome_of_runFixture {result : Except Fault (List Failure)} {w' : World}
    (run : s.runFixture m codes path w = .ok (result, w')) :
    s.IsOutcome m codes path w (Outcome.ofResult result) := by
  rcases runFixture_cases run with ⟨fault, unread, rfl⟩ | ⟨e, expects, started⟩
  · exact isOutcome_of_fault fault (.inl unread)
  rcases started with ⟨fault, idle, rfl⟩ | ⟨b, waited, stdout, stderr, starts, ends, captures, rfl⟩
  · exact isOutcome_of_fault fault (.inr (.inl idle))
  cases waited with
  | lost =>
    have lost := (Behaviour.lost_iff_wait s.interpreter.timeout).mpr ends
    exact isOutcome_of_fault _ (.inr (.inr ⟨b, starts, .inl lost⟩))
  | expired time =>
    have overruns := Behaviour.overruns_iff_wait.mpr ⟨time, ends⟩
    exact isOutcome_of_overruns _ expects ⟨b, starts, overruns⟩
  | ended time status =>
    have in_time := Behaviour.endsInTime_iff_wait.mpr ⟨time, ends⟩
    cases status with
    | exited code => exact isOutcome_of_exitsWith expects ⟨b, starts, in_time, captures⟩
    | signaled signal =>
      exact isOutcome_of_fault _ (.inr (.inr ⟨b, starts, .inr (.inl ⟨signal, in_time⟩)⟩))
    | unknown => exact isOutcome_of_fault _ (.inr (.inr ⟨b, starts, .inr (.inr in_time)⟩))

/-- A fixture that is run has an outcome as soon as reading from its interpreter comes to an end,
and every outcome tells faults from failures. A fixture that is not read or is refused meets the
same fault whatever the interpreter would do; it is not started, and the world stays as it is. -/
theorem runFixture_tells (s : Suite) (m : Machine World) (codes : ExitCodes) (path : String)
    (w : World) :
    ((∀ b, s.Starts m path w b → b.IsFinite m.start s.interpreter.timeout) →
        ∃ result w', s.runFixture m codes path w = .ok (result, w')) ∧
      (∀ result w', s.runFixture m codes path w = .ok (result, w') →
        s.IsOutcome m codes path w (Outcome.ofResult result)) ∧
      ∀ fault, Fixture.load ⟨s.language, codes⟩ (m.files w) path = .error fault →
        ∀ m' : Machine World, m'.files = m.files →
          s.runFixture m' codes path w = .ok (.error fault, w) := by
  refine ⟨exists_runFixture, fun result w' run => isOutcome_of_runFixture run, ?_⟩
  intro fault unread m' same
  apply runFixture_of_unread
  rw [same, unread]

end Suite

/-! ## A small run -/

def Files.oneEmpty : Files := { top := .dir [("one.lox", .file [])] }

/-- A machine that never changes and on which all interpreters are alike. -/
def Machine.steady (launched : Option (Behaviour Unit)) : Machine Unit where
  files := fun _ => .oneEmpty
  launch := fun _ _ _ _ => launched
  start := ⟨0⟩

theorem Files.get?_oneEmpty : oneEmpty.top.get? ["one.lox"] = some (.file []) := by
  simp [oneEmpty, Tree.get?, Tree.entry?]

theorem Files.accepts_oneEmpty {name : String} (isName : Path.IsName name)
    (short : name.utf8ByteSize ≤ Tree.maxName) : oneEmpty.Accepts name :=
  ⟨isName.ne_empty, isName.no_null, Nat.le_trans short (by decide)⟩

theorem Files.find_oneEmpty (last : Bool) :
    oneEmpty.find "one.lox" last = .ok ⟨["one.lox"], true⟩ := by
  have isName : Path.IsName "one.lox" := by decide
  have short : "one.lox".utf8ByteSize ≤ Tree.maxName := by decide
  have looks : Tree.LooksUp oneEmpty.sizeOf "one.lox" := Tree.looksUp_of_isName isName short
  rw [(accepts_oneEmpty isName short).find_eq (Path.segments_of_isName isName),
    if_neg isName.ne_empty, Tree.follow_leaf looks get?_oneEmpty (by simp) (by simp)]
  rfl

theorem Files.find_oneEmpty_of_ne {name : String} (isName : Path.IsName name)
    (short : name.utf8ByteSize ≤ Tree.maxName) (other : name ≠ "one.lox") :
    oneEmpty.find name = .ok ⟨[name], false⟩ := by
  have looks : Tree.LooksUp oneEmpty.sizeOf name := Tree.looksUp_of_isName isName short
  have missing : oneEmpty.top.get? ([] ++ [name]) = none := by
    simp [oneEmpty, Tree.get?, Tree.entry?, other.symm]
  rw [(accepts_oneEmpty isName short).find_eq (Path.segments_of_isName isName),
    if_neg isName.ne_empty]
  exact Tree.follow_missing looks missing

theorem Files.at?_oneEmpty : oneEmpty.at? "one.lox" = some (.file []) := by
  simp only [at?, locate?, find_oneEmpty, Option.bind_some, get?_oneEmpty]

theorem Files.text?_oneEmpty : oneEmpty.text? "one.lox" = some "" := by
  have read : Text.decode? [] = some [] := by simp [Text.decode?, Text.utf8Parts]
  simp only [text?, bytes?, at?_oneEmpty, Option.bind_some, read, Option.map_some]

theorem Fixture.load_oneEmpty (options : ReadingOptions) :
    Fixture.load options .oneEmpty "one.lox" = .ok {} := by
  rw [Fixture.load, Files.text?_oneEmpty]
  rfl

theorem Fixture.load_oneEmpty_of_ne {name : String} (isName : Path.IsName name)
    (short : name.utf8ByteSize ≤ Tree.maxName) (other : name ≠ "one.lox")
    (options : ReadingOptions) :
    Fixture.load options .oneEmpty name = .error (.unreadableFixture name) := by
  have missing : Files.oneEmpty.text? name = none := by
    simp only [Files.text?, Files.bytes?, Files.at?, Files.locate?,
      Files.find_oneEmpty_of_ne isName short other, Option.bind_none]
  rw [Fixture.load, missing]

def Behaviour.killedLate : Behaviour Unit :=
  { ending := .ended 300000 (.signaled 9), after := () }

def Suite.impatient : Suite where
  name := "impatient"
  interpreter := { executable := "lox", timeout := some (.ofMillis 200) }
  fixtures := ["one.lox"]

/-- An interpreter that only a signal ends, after its time limit, fails and is no fault. -/
theorem Suite.runFixture_tells_late_signal :
    ∃ result w', impatient.runFixture (.steady (some .killedLate)) {} "one.lox" () =
        .ok (result, w') ∧
      (Outcome.ofResult result).isFailed = true ∧ ¬ (Outcome.ofResult result).isError = true := by
  obtain ⟨answers, tells, -⟩ :=
    runFixture_tells impatient (.steady (some .killedLate)) {} "one.lox" ()
  have finite : ∀ b, impatient.Starts (.steady (some .killedLate)) "one.lox" () b →
      b.IsFinite ⟨0⟩ impatient.interpreter.timeout := by
    rintro b -
    change 0 + Process.lookAfter (Duration.ofMillis 200).toNanos + Process.pipeGrace.toNanos ≤
      Instant.last.nanos
    decide
  obtain ⟨result, w', run⟩ := answers finite
  have outcome := tells result w' run
  have overruns : impatient.Overruns (.steady (some .killedLate)) "one.lox" () := by
    refine ⟨.killedLate, rfl, nofun, .inr ⟨300000, .signaled 9, rfl, ?_⟩⟩
    intro in_time
    have noticed := in_time (.ofMillis 200) rfl
    revert noticed
    decide
  have failed := outcome.failed.mpr ⟨{}, Fixture.load_oneEmpty _, .inl overruns⟩
  exact ⟨result, w', run, failed, (outcome.remaining.mp failed).1⟩

end Conformance

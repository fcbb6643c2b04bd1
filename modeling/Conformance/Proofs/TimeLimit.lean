import Conformance.Proofs.Accounting
import Conformance.Proofs.Selection

/-! # Time limits and the last moment

The clock has a last moment, and a time limit may be longer than what is left of it. An interpreter
that ends before its limit has a result as long as the clock has the moment of the limit and that of
the grace; otherwise the run breaks off. A limit that needs 64 bits breaks off every such run.
-/

namespace Conformance

namespace Instant

variable {i : Instant} {d : Duration}

theorem last_nanos : last.nanos = 9223372036854775807999999999 := rfl

theorem not_reaches_of_seconds (many : 9223372036854775808 ≤ d.seconds) : ¬ i.Reaches d := by
  intro reached
  rw [Reaches, last_nanos, Duration.toNanos] at reached
  omega

end Instant

namespace Process

variable {start : Instant} {limit : Duration} {gone time : Nat} {status : Status}

theorem pipeDeadline_ended_of_not_hasRoom (status : Status) (narrow : ¬ HasRoom start limit gone) :
    pipeDeadline start (.ended gone status) (some limit) = .error .pastLastMoment := by
  rw [pipeDeadline_ended status]
  by_cases byLimit : start.Reaches limit
  · have byGrace : ¬ start.Reaches ⟨0, gone + pipeGrace.toNanos⟩ :=
      fun reached => narrow ⟨byLimit, reached⟩
    rw [Instant.add?_of_reaches byLimit, Instant.add?_of_not_reaches byGrace]
  · rw [Instant.add?_of_not_reaches byLimit]

theorem toNanos_mk (seconds nanos : Nat) :
    Duration.toNanos ⟨seconds, nanos⟩ = seconds * 1000000000 + nanos := rfl

theorem lookAfter_seconds (seconds : Nat) :
    lookAfter (Duration.toNanos ⟨seconds, 0⟩) = Duration.toNanos ⟨seconds, 0⟩ := by
  rw [toNanos_mk]
  unfold lookAfter pollInterval
  omega

theorem hasRoom_of_reaches {seconds : Nat} (in_time : InTime (some ⟨seconds, 0⟩) time)
    (reached : start.Reaches ⟨seconds, pipeGrace.toNanos⟩) :
    HasRoom start ⟨seconds, 0⟩ (lookAfter (time * micro)) := by
  have early := in_time _ rfl
  rw [lookAfter_seconds, toNanos_mk, Nat.add_zero] at early
  generalize lookAfter (time * micro) = gone at early ⊢
  constructor
  case byLimit =>
    apply reached.mono
    rw [toNanos_mk, toNanos_mk]
    omega
  case byGrace =>
    apply reached.mono
    rw [toNanos_nanos, toNanos_mk]
    exact Nat.add_le_add_right early _

end Process

namespace Behaviour

open Process

variable {World : Type} {b : Behaviour World} {start : Instant} {timeout : Option Duration}
  {time : Nat} {status : Status}

theorem wait_of_inTime (ends : b.ending = .ended time status) (in_time : InTime timeout time) :
    ∃ gone, wait b.ending timeout = .ok (.ended gone status) ∧
      ∀ limit, timeout = some limit → gone = lookAfter (time * micro) := by
  rw [ends]
  cases timeout with
  | none => exact ⟨time * micro, rfl, nofun⟩
  | some limit =>
    refine ⟨lookAfter (time * micro), ?_, fun _ _ => rfl⟩
    simp only [wait, if_pos (in_time limit rfl)]

theorem stall_of_wait {stall : Stall} (failed : wait b.ending timeout = .error stall) :
    stall = .endless := by
  unfold wait at failed
  split at failed <;> cases failed
  rfl

theorem stall_of_collect {p : Pipe} {deadline : Option Instant} {stall : Stall}
    (failed : collect start p deadline = .error stall) : stall = .endless := by
  unfold collect at failed
  split at failed
  · cases failed
  · split at failed <;> cases failed
    rfl

/-- Only the deadline can lie past the last moment. -/
theorem observe_pastLastMoment_iff {path : String} :
    observe b start timeout path = .error .pastLastMoment ↔
      ∃ waited, wait b.ending timeout = .ok waited ∧
        pipeDeadline start waited timeout = .error .pastLastMoment := by
  rw [observe_eq]
  constructor
  · intro failed
    rcases bind_eq_error_iff.mp failed with waiting | ⟨waited, answer, failed⟩
    · cases stall_of_wait waiting
    rcases bind_eq_error_iff.mp failed with late | ⟨deadline, -, failed⟩
    · exact ⟨waited, answer, late⟩
    rcases bind_eq_error_iff.mp failed with reading | ⟨_, -, failed⟩
    · cases stall_of_collect reading
    rcases bind_eq_error_iff.mp failed with reading | ⟨_, -, failed⟩
    · cases stall_of_collect reading
    · cases failed
  · rintro ⟨waited, answer, late⟩
    exact bind_eq_error_iff.mpr (.inr ⟨waited, answer, bind_eq_error_iff.mpr (.inl late)⟩)

end Behaviour

/-! ## Interpreters that end in time -/

namespace Suite

open Process

variable {World : Type} {s : Suite} {m : Machine World} {path : String} {w : World}
  {b : Behaviour World}

theorem run_of_starts (starts : s.Starts m path w b) : s.interpreter.run m path w =
    (observe b m.start s.interpreter.timeout path).map fun result => (result, b.after) := by
  have started : m.launch w s.interpreter.executable (s.interpreter.arguments path)
      s.interpreter.timeout = some b := starts
  rw [Interpreter.run, started]

theorem run_pastLastMoment_iff (starts : s.Starts m path w b) :
    s.interpreter.run m path w = .error .pastLastMoment ↔
      observe b m.start s.interpreter.timeout path = .error .pastLastMoment := by
  rw [run_of_starts starts]
  cases observe b m.start s.interpreter.timeout path with
  | error stall => simp [Except.map]
  | ok result => simp [Except.map]

end Suite

open Process

namespace Config

variable {World : Type} {c : Config} {b : Behaviour World} {start : Instant} {time : Nat}
  {status : Status} {path : String}

theorem timeout_eq_none (unlimited : c.timeoutSecs = 0) : c.timeout = none := by
  rw [timeout, if_neg (by omega)]

theorem timeout_eq_some (limited : c.timeoutSecs ≠ 0) : c.timeout = some ⟨c.timeoutSecs, 0⟩ :=
  if_pos (Nat.pos_of_ne_zero limited)

theorem observe_pastLastMoment_iff (ends : b.ending = .ended time status)
    (in_time : InTime c.timeout time) :
    observe b start c.timeout path = .error .pastLastMoment ↔
      c.timeoutSecs ≠ 0 ∧ ¬ HasRoom start ⟨c.timeoutSecs, 0⟩ (lookAfter (time * micro)) := by
  obtain ⟨gone, answer, seen⟩ := Behaviour.wait_of_inTime ends in_time
  have only : observe b start c.timeout path = .error .pastLastMoment ↔
      pipeDeadline start (.ended gone status) c.timeout = .error .pastLastMoment := by
    rw [Behaviour.observe_pastLastMoment_iff]
    constructor
    · rintro ⟨waited, answer', late⟩
      obtain rfl := Except.ok.inj (answer'.symm.trans answer)
      exact late
    · exact fun late => ⟨_, answer, late⟩
  rw [only]
  by_cases unlimited : c.timeoutSecs = 0
  · rw [timeout_eq_none unlimited]
    exact iff_of_false nofun fun limited => limited.1 unlimited
  rw [timeout_eq_some unlimited] at seen ⊢
  obtain rfl := seen _ rfl
  by_cases room : HasRoom start ⟨c.timeoutSecs, 0⟩ (lookAfter (time * micro))
  · obtain ⟨deadline, found⟩ := exists_pipeDeadline_ended status room
    rw [found]
    exact iff_of_false nofun fun narrow => narrow.2 room
  · exact iff_of_true (pipeDeadline_ended_of_not_hasRoom status room) ⟨unlimited, room⟩

/-- A process that ends in time has a result, unless the clock has no room or, without a time
limit, a pipe never closes. -/
theorem exists_observe_ended (ends : b.ending = .ended time status)
    (in_time : InTime c.timeout time)
    (within : observe b start c.timeout path ≠ .error .pastLastMoment)
    (closed : c.timeoutSecs = 0 → b.stdout.closed ≠ none ∧ b.stderr.closed ≠ none) :
    ∃ gone stdout stderr, b.Captures start c.timeout stdout stderr ∧
      observe b start c.timeout path =
        .ok ((Waited.ended gone status).result path c.timeout stdout stderr) := by
  rw [Ne, observe_pastLastMoment_iff ends in_time, not_and, not_not] at within
  obtain ⟨gone, answer, seen⟩ := Behaviour.wait_of_inTime ends in_time
  have captured : ∃ stdout stderr, b.Captures start c.timeout stdout stderr := by
    by_cases unlimited : c.timeoutSecs = 0
    · rw [timeout_eq_none unlimited] at answer ⊢
      obtain ⟨out_closed, err_closed⟩ := closed unlimited
      exact Behaviour.exists_captures_unlimited answer out_closed err_closed
    · rw [timeout_eq_some unlimited] at answer seen ⊢
      obtain rfl := seen _ rfl
      obtain ⟨deadline, found⟩ := exists_pipeDeadline_ended status (within unlimited)
      exact Behaviour.exists_captures_until answer found
  obtain ⟨stdout, stderr, captures⟩ := captured
  exact ⟨gone, stdout, stderr, captures,
    Behaviour.observe_eq_ok_iff.mpr ⟨_, stdout, stderr, answer, captures, rfl⟩⟩

end Config

namespace Program

theorem answer_of_stalls {World : Type} {m : Machine World} {words : List String} {w : World}
    {stall : Stall} (stalls : respond m words w = .error stall) : answer m words w = brokenOff := by
  rw [answer, stalls]

variable {World : Type} {f : Files} {source : SuiteSource} {timeout : Option Nat} {c : Config}
  {suites : List Suite} {s : Suite} {m : Machine World} {path : String} {w : World}
  {b : Behaviour World} {time : Nat} {status : Status}

/-- What comes of an interpreter that ends before the time limit, whether the limit stands in the
configuration or on the command line. The run breaks off exactly if there is a limit and the clock
lacks the moment of the limit or that of the grace. Otherwise the interpreter has a result, and so
it does if the clock has the limit and the grace on top of it. A limit that needs 64 bits breaks off
every such run, whatever the clock shows. -/
theorem run_within_clock (selects : Selects f source timeout c suites) (listed : s ∈ suites)
    (starts : s.Starts m path w b) (ends : b.ending = .ended time status)
    (in_time : InTime c.timeout time) :
    (s.interpreter.run m path w = .error .pastLastMoment ↔
        c.timeoutSecs ≠ 0 ∧
          ¬ HasRoom m.start ⟨c.timeoutSecs, 0⟩ (lookAfter (time * micro))) ∧
      (s.interpreter.run m path w ≠ .error .pastLastMoment →
        (c.timeoutSecs = 0 → b.stdout.closed ≠ none ∧ b.stderr.closed ≠ none) →
        ∃ gone stdout stderr, b.Captures m.start c.timeout stdout stderr ∧
          s.interpreter.run m path w =
            .ok ((Waited.ended gone status).result path c.timeout stdout stderr, b.after)) ∧
      (m.start.Reaches ⟨c.timeoutSecs, pipeGrace.toNanos⟩ →
        s.interpreter.run m path w ≠ .error .pastLastMoment) ∧
      (9223372036854775808 ≤ c.timeoutSecs →
        s.interpreter.run m path w = .error .pastLastMoment) := by
  obtain ⟨_, _, _, selected⟩ := selects
  obtain ⟨d, -, interpreter⟩ := Suite.interpreter_of_select selected listed
  have limit : s.interpreter.timeout = c.timeout := by rw [interpreter]
  have breaks_off : s.interpreter.run m path w = .error .pastLastMoment ↔ c.timeoutSecs ≠ 0 ∧
      ¬ HasRoom m.start ⟨c.timeoutSecs, 0⟩ (lookAfter (time * micro)) := by
    rw [Suite.run_pastLastMoment_iff starts, limit]
    exact Config.observe_pastLastMoment_iff ends in_time
  refine ⟨breaks_off, ?result, ?room, ?past⟩
  case result =>
    intro within closed
    rw [Ne, Suite.run_pastLastMoment_iff starts, limit] at within
    obtain ⟨gone, stdout, stderr, captures, observed⟩ :=
      Config.exists_observe_ended ends in_time within closed
    refine ⟨gone, stdout, stderr, captures, ?_⟩
    rw [Suite.run_of_starts starts, limit, observed]
    rfl
  case room =>
    intro reached broken
    obtain ⟨limited, narrow⟩ := breaks_off.mp broken
    rw [Config.timeout_eq_some limited] at in_time
    exact narrow (hasRoom_of_reaches in_time reached)
  case past =>
    intro long
    have limited : c.timeoutSecs ≠ 0 := by omega
    refine breaks_off.mpr ⟨limited, fun room => ?_⟩
    exact Instant.not_reaches_of_seconds long room.byLimit

end Program

/-! ## A small run -/

theorem Suite.runAll_of_first {World : Type} {s : Suite} {suites : List Suite} {m : Machine World}
    {codes : ExitCodes} {path : String} {paths : List String} {w : World} {stall : Stall}
    (fixtures : s.fixtures = path :: paths)
    (stalls : s.runFixture m codes path w = .error stall) :
    runAll (s :: suites) m codes w = .error stall := by
  simp only [runAll, List.mapM_cons, run, fixtures, bind, StateT.bind, stalls, Except.bind]

def Behaviour.prompt : Behaviour Unit := { ending := .ended 0 (.exited 0), after := () }

/-- The longest limit that is accepted. -/
def Program.longestRun : List String :=
  ["run", "--interpreter", "lox", "--root", "one.lox", "--timeout", "18446744073709551615"]

/-- With the usual limit the process has a result; with the longest one the program breaks off where
it waits for the process, and that is all it tells. -/
theorem Program.run_within_clock_longest :
    (∃ stdout stderr, (Suite.ofOneWithin 10).interpreter.run (.steady (some .prompt)) "one.lox" () =
        .ok (.ok (.completed { stdout, stderr, exitCode := 0 }), ())) ∧
      respond (.steady (some .prompt)) longestRun () = .error .pastLastMoment ∧
      answer (.steady (some .prompt)) longestRun () =
        { exitCode := 101, brokenPart := some "loxtest::runner" } := by
  have starts (timeoutSecs : Nat) : (Suite.ofOneWithin timeoutSecs).Starts
      (.steady (some .prompt)) "one.lox" () .prompt := rfl
  have in_time (timeoutSecs : Nat) : InTime (Config.ofOneWithin timeoutSecs).timeout 0 :=
    fun _ _ => Nat.zero_le _
  constructor
  · obtain ⟨-, result, room, -⟩ := run_within_clock (selects_ofOneWithin none)
      List.mem_cons_self (starts 10) rfl (in_time 10)
    have reached : Instant.Reaches ⟨0⟩ ⟨10, pipeGrace.toNanos⟩ := Nat.le_of_ble_eq_true rfl
    obtain ⟨gone, stdout, stderr, -, ran⟩ := result (room reached) nofun
    exact ⟨stdout, stderr, ran⟩
  · have selects := selects_ofOneWithin (some 18446744073709551615)
    obtain ⟨-, -, -, past⟩ := run_within_clock selects List.mem_cons_self (starts _) rfl (in_time _)
    have breaks_off := past (by decide)
    have fixture : (Suite.ofOneWithin 18446744073709551615).runFixture (.steady (some .prompt)) {}
        "one.lox" () = .error .pastLastMoment := by
      have loaded (options : ReadingOptions) : Fixture.load options
          ((Machine.steady (some .prompt)).files ()) "one.lox" = .ok {} :=
        Fixture.load_oneEmpty options
      rw [Suite.runFixture, loaded]
      exact congrArg (Except.map _) breaks_off
    have read : CommandLine.read longestRun =
        .ok ⟨0, .run .ofOne none (some 18446744073709551615) .text⟩ := rfl
    have ran : run (.steady (some .prompt)) false .ofOne (some 18446744073709551615) .text () =
        .error .pastLastMoment := by
      rw [run_of_selects selects]
      exact congrArg (Except.map _) (Suite.runAll_of_first rfl fixture)
    have stalls : respond (.steady (some .prompt)) longestRun () = .error .pastLastMoment := by
      rw [respond, read]
      exact congrArg (Except.map _) ran
    exact ⟨stalls, answer_of_stalls stalls⟩

end Conformance

import Conformance.System.Machine
import Conformance.Proofs.Channel
import Conformance.Proofs.System.Record
import Conformance.Proofs.TimeLimit

/-! # Runs on the machine

The machine with a shell and a few utilities is one that the harness can work with, whatever its
programs do: it tells how each process ended, its pipes deliver in order, and with a time limit that
its clock holds every fixture has a result.
-/

namespace Conformance

namespace System

namespace World

variable {w : World}

/-! ## What the harness does to a world -/

theorem keeps_addCapture (w : World) : w.Keeps w.addCapture.1 where
  now := rfl
  recorded h := List.forall_mem_cons.mpr ⟨Capture.isRecord_empty w.now, h⟩

theorem keeps_start (w : World) (name : String) (args : List String) :
    w.Keeps (w.start name args).1 :=
  (keeps_addCapture w).trans ((keeps_addCapture _).trans (.of_captures rfl rfl))

theorem keeps_killGroup (w : World) (group : Nat) : w.Keeps (w.killGroup group) :=
  .foldl (fun w (q : Process) => keeps_send w q.id Signal.kill) w _

theorem keeps_leave (w : World) (s : Started) : w.Keeps (w.leave s) := by
  unfold leave
  extract_lets left
  have leaves : w.Keeps left := by
    refine keeps_of_map rfl (fun _ => id) fun h entry among => ?_
    split
    · exact ⟨(h entry among).ordered, (h entry among).past⟩
    · exact h entry among
  exact leaves.trans (keeps_tidy left)

theorem leads_waitUntil (w : World) (moment : Nat) : w.Leads (w.waitUntil moment) := by
  unfold waitUntil
  split
  · exact leads_run programs _ _ _ w
  · exact .refl w

theorem leads_drain (w : World) (s : Started) (moment : Option Nat) : w.Leads (w.drain s moment) :=
  leads_run programs _ _ _ w

/-! ## What the harness sees -/

theorem ordered_pipeSince (recorded : w.IsRecorded) (begin number : Nat) :
    (w.pipeSince begin number).Ordered := by
  have ordered := (isRecord_capture recorded number).ordered
  refine List.pairwise_map.mpr (List.pairwise_reverse.mpr (ordered.imp ?_))
  exact fun earlier => Nat.sub_le_sub_right earlier begin

/-- A process as a system shows it: its pipes deliver in order, and its end is told. -/
structure IsShown (b : Behaviour World) : Prop where
  stdout : b.stdout.Ordered
  stderr : b.stderr.Ordered
  awaited : b.ending ≠ .lost
  told : ∀ time, b.ending ≠ .ended time .unknown
  recorded : b.after.IsRecorded

theorem statusOf_ne_unknown (how : Ended) : statusOf how ≠ .unknown := by
  cases how <;> nofun

theorem isShown_observe (recorded : w.IsRecorded) (s : Started) (timeout : Option Duration) :
    IsShown (w.observe s timeout) := by
  unfold observe
  extract_lets begin micros expiry isOver ran ending waited deadline drained
  have ran_recorded : ran.IsRecorded := (leads_run programs _ _ _ w).recorded recorded
  have waited_recorded : waited.IsRecorded := by
    unfold waited
    split
    · exact (leads_waitUntil ran _).recorded ran_recorded
    · exact (keeps_killGroup _ _).recorded ((leads_waitUntil ran _).recorded ran_recorded)
    · exact ran_recorded
  clear_value deadline
  have drained_recorded : drained.IsRecorded := by
    cases deadline with
    | ok moment => exact (leads_drain waited s _).recorded waited_recorded
    | error stall => exact waited_recorded
  constructor
  case stdout | stderr => exact ordered_pipeSince drained_recorded begin _
  case recorded => exact (keeps_leave drained s).recorded drained_recorded
  case awaited =>
    unfold ending
    split <;> nofun
  case told =>
    intro time
    unfold ending
    split
    · next how _ =>
      intro same
      exact statusOf_ne_unknown how (Ending.ended.inj same).2
    · nofun

end World

theorem isShown_of_launch {w : World} {executable : String} {args : List String}
    {timeout : Option Duration} {b : Behaviour World} (recorded : w.IsRecorded)
    (launched : machine.launch w executable args timeout = some b) : World.IsShown b := by
  obtain ⟨name, -, rfl⟩ := Option.map_eq_some_iff.mp launched
  exact World.isShown_observe ((World.keeps_start w name _).recorded recorded) _ timeout

/-- The worlds that the harness can come to: it has files, which somebody may change, and runs one
process after the other. -/
inductive Reached : World → Prop
  | files (f : Files) : Reached (.ofFiles f)
  | change {w} (path : String) (change : Files → Files) : Reached w →
      Reached (w.withChange path change)
  | launch {w executable args timeout b} : Reached w →
      machine.launch w executable args timeout = some b → Reached b.after

theorem Reached.recorded {w : World} (reached : Reached w) : w.IsRecorded := by
  induction reached with
  | files f => exact nofun
  | change path change _ ih => exact ih
  | launch _ launched ih => exact (isShown_of_launch ih launched).recorded

/-- The longest time limit, in seconds, that the clock of the machine holds. -/
def longestLimit : Nat := 9223372036854774807

theorem room_of_le {seconds : Nat} (le : seconds ≤ longestLimit) :
    machine.start.nanos + Process.lookAfter (Duration.toNanos ⟨seconds, 0⟩) +
      Process.pipeGrace.toNanos ≤ Instant.last.nanos := by
  have grace : Process.pipeGrace.toNanos = 250000000 := rfl
  have start : machine.start.nanos = 1000000000000 := rfl
  rw [Process.lookAfter_seconds, Process.toNanos_mk, Instant.last_nanos, grace, start]
  unfold longestLimit at le
  omega

namespace World.IsShown

variable {b : Behaviour World} {timeout : Option Duration}

/-- What is read from a process is what two collectors return that read its pipes side by side with
two drains, in runs that keep the times of the pipes. -/
theorem captures_iff (shown : IsShown b) {stdout stderr : String} :
    b.Captures machine.start timeout stdout stderr ↔
      ∃ waited deadline, Process.wait b.ending timeout = .ok waited ∧
        Process.pipeDeadline machine.start waited timeout = .ok deadline ∧
        (∃ events c, b.stdout.Times machine.start deadline events ∧
          Channel.Execution (b.stdout.chunks.map Prod.snd) deadline.isSome events c ∧
          c.Returns stdout) ∧
        ∃ events c, b.stderr.Times machine.start deadline events ∧
          Channel.Execution (b.stderr.chunks.map Prod.snd) deadline.isSome events c ∧
          c.Returns stderr := by
  simp only [Behaviour.Captures, shown.stdout.collect_eq_ok_iff, shown.stderr.collect_eq_ok_iff]

end World.IsShown

end System

open Conformance.System (machine longestLimit)

namespace Suite

variable {s : Suite} {suites : List Suite} {codes : ExitCodes} {path : String}
  {w w' : System.World} {result : Except Fault (List Failure)}

/-- The faults that a fixture can meet on the machine: it is not read, its interpreter is not
started, or a signal ends it. -/
theorem runFixture_on_machine (reached : System.Reached w)
    (run : s.runFixture machine codes path w = .ok (result, w')) :
    System.Reached w' ∧ ∀ fault, result = .error fault →
      Fixture.load ⟨s.language, codes⟩ (machine.files w) path = .error fault ∨
        fault = .notStarted s.interpreter.executable ∨ ∃ signal, fault = .killed path signal := by
  cases load : Fixture.load ⟨s.language, codes⟩ (machine.files w) path with
  | error unread =>
    rw [runFixture_of_unread load] at run
    obtain ⟨rfl, rfl⟩ := Prod.mk.inj (Except.ok.inj run)
    refine ⟨reached, fun fault same => .inl ?_⟩
    rw [Except.error.inj same]
  | ok e =>
    by_cases idle : ∀ b, ¬ s.Starts machine path w b
    · rw [runFixture_of_not_starts load idle] at run
      obtain ⟨rfl, rfl⟩ := Prod.mk.inj (Except.ok.inj run)
      exact ⟨reached, fun fault same => .inr (.inl (Except.error.inj same).symm)⟩
    · obtain ⟨b, starts⟩ := Classical.not_forall_not.mp idle
      have shown : System.World.IsShown b := System.isShown_of_launch reached.recorded starts
      rw [runFixture_of_starts load starts] at run
      obtain ⟨answer, observed, same⟩ := map_eq_ok_iff.mp run
      obtain ⟨rfl, rfl⟩ := Prod.mk.inj same
      obtain ⟨waited, stdout, stderr, ends, -, rfl⟩ := Behaviour.observe_eq_ok_iff.mp observed
      refine ⟨reached.launch starts, fun fault failed => ?_⟩
      cases waited with
      | lost => exact absurd ((Behaviour.lost_iff_wait _).mpr ends) shown.awaited
      | expired time => cases failed
      | ended time status =>
        cases status with
        | exited code => cases failed
        | signaled signal => exact .inr (.inr ⟨signal, (Except.error.inj failed).symm⟩)
        | unknown =>
          obtain ⟨time, unknown, -⟩ := Behaviour.endsInTime_iff_wait.mpr ⟨time, ends⟩
          exact absurd unknown (shown.told time)

theorem areFinite_on_machine
    (limited : ∀ s ∈ suites, ∃ seconds ≤ longestLimit, s.interpreter.timeout = some ⟨seconds, 0⟩) :
    AreFinite suites machine := by
  intro s among path _ w b _
  obtain ⟨seconds, le, timeout⟩ := limited s among
  rw [timeout]
  exact System.room_of_le le

theorem reached_of_runAll (reached : System.Reached w) {r : RunReport}
    (ran : runAll suites machine codes w = .ok (r, w')) : System.Reached w' := by
  obtain ⟨reports, ran, -⟩ := runAll_eq_ok_iff_mapM.mp ran
  refine Work.mapM_preserves (fun s _ v r v' ran reached => ?_) ran reached
  obtain ⟨results, ran, -⟩ := run_eq_ok_iff.mp ran
  refine Work.mapM_preserves (fun path _ v result v' ran reached => ?_) ran reached
  exact (runFixture_on_machine reached ran).1

end Suite

namespace Program

variable {w : System.World} {source : SuiteSource} {timeout : Option Nat}

theorem exists_run_on_machine (reached : System.Reached w) (verbose : Bool) (format : ReportFormat)
    (limited : ∀ c suites, Selects (machine.files w) source timeout c suites →
      c.timeoutSecs ≠ 0 ∧ c.timeoutSecs ≤ longestLimit) :
    ∃ answer w', run machine verbose source timeout format w = .ok (answer, w') ∧
      System.Reached w' := by
  by_cases nothing : ∀ c suites, ¬ Selects (machine.files w) source timeout c suites
  · obtain ⟨fault, failed⟩ := run_of_not_selects nothing
    exact ⟨_, _, failed, reached⟩
  push Not at nothing
  obtain ⟨c, suites, selects⟩ := nothing
  obtain ⟨positive, le⟩ := limited c suites selects
  have finite : Suite.AreFinite suites machine := by
    refine Suite.areFinite_on_machine fun s listed => ⟨c.timeoutSecs, le, ?_⟩
    obtain ⟨_, _, _, selected⟩ := selects
    obtain ⟨d, -, interpreter⟩ := Suite.interpreter_of_select selected listed
    rw [interpreter]
    exact Config.timeout_eq_some positive
  obtain ⟨r, w', ran⟩ := Suite.exists_runAll finite c.exitCodes w
  rw [run_of_selects selects, ran]
  exact ⟨_, _, rfl, Suite.reached_of_runAll reached ran⟩

/-- On the machine the program answers every command line, and never breaks off, if the time limit
that it runs suites with is one that the clock holds. -/
theorem exists_respond_on_machine (words : List String) (reached : System.Reached w)
    (limited : ∀ verbosity source jobs timeout format,
      CommandLine.read words = .ok ⟨verbosity, .run source jobs timeout format⟩ →
        ∀ c suites, Selects (machine.files w) source timeout c suites →
          c.timeoutSecs ≠ 0 ∧ c.timeoutSecs ≤ longestLimit) :
    ∃ r w', respond machine words w = .ok (r, w') ∧ answer machine words w = r ∧
      System.Reached w' := by
  have answers : ∃ r w', respond machine words w = .ok (r, w') ∧ System.Reached w' := by
    unfold respond
    split
    · exact ⟨_, _, rfl, reached⟩
    · next verbosity command read =>
      cases command with
      | run source jobs timeout format =>
        obtain ⟨r, w', ran, reached'⟩ := exists_run_on_machine reached (verbosity > 0) format
          (limited verbosity source jobs timeout format read)
        simp only [ran]
        exact ⟨_, _, rfl, reached'⟩
      | parse | list => exact ⟨_, _, rfl, reached⟩
  obtain ⟨r, w', responds, reached'⟩ := answers
  exact ⟨r, w', responds, by rw [answer, responds], reached'⟩

end Program

end Conformance

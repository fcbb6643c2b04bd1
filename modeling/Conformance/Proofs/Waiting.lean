import Conformance.Process
import Conformance.Proofs.Work
import Mathlib.Data.Option.Basic

/-! # Waiting for a process

What the harness makes of a process in terms of how the process behaves: it ends in time, overruns
its time limit, or cannot be waited for. What a wait comes to decides the result, and the texts are
those read up to a deadline. With a time limit the deadline lies at most a grace after the limit is
seen to pass, so reading ends if the clock reaches that far.
-/

namespace Conformance

namespace Instant

variable {i : Instant} {d : Duration}

/-- The clock has the moment a duration later. -/
def Reaches (i : Instant) (d : Duration) : Prop := i.nanos + d.toNanos ≤ last.nanos

theorem add?_of_reaches (reached : i.Reaches d) : i.add? d = some ⟨i.nanos + d.toNanos⟩ :=
  if_pos reached

theorem add?_of_not_reaches (past : ¬ i.Reaches d) : i.add? d = none :=
  if_neg past

theorem Reaches.mono {d' : Duration} (reached : i.Reaches d') (shorter : d.toNanos ≤ d'.toNanos) :
    i.Reaches d :=
  Nat.le_trans (Nat.add_le_add_left shorter i.nanos) reached

end Instant

namespace Process

variable {start : Instant} {timeout : Option Duration} {limit : Duration} {gone : Nat}

/-- The end of a process is noticed no later than that its time limit has passed. -/
def InTime (timeout : Option Duration) (time : Nat) : Prop :=
  ∀ limit ∈ timeout, lookAfter (time * micro) ≤ lookAfter limit.toNanos

def Waited.result (path : String) (timeout : Option Duration) (stdout stderr : String) :
    Waited → Except Fault RunResult
  | .expired _ => .ok (.timedOut (timeout.getD ⟨0, 0⟩) stdout stderr)
  | .lost => .error (.notAwaited path)
  | .ended _ (.exited exitCode) => .ok (.completed { stdout, stderr, exitCode })
  | .ended _ (.signaled signal) => .error (.killed path signal)
  | .ended _ .unknown => .error (.unknownStatus path)

/-! ## Deadlines -/

theorem toNanos_nanos (nanos : Nat) : Duration.toNanos ⟨0, nanos⟩ = nanos := by
  rw [Duration.toNanos, Nat.zero_mul, Nat.zero_add]

/-- The clock has the moments that decide how long pipes are read when a process is gone after so
many nanoseconds. -/
structure HasRoom (start : Instant) (limit : Duration) (gone : Nat) : Prop where
  byLimit : start.Reaches limit
  byGrace : start.Reaches ⟨0, gone + pipeGrace.toNanos⟩

theorem pipeDeadline_ended (status : Status) :
    pipeDeadline start (.ended gone status) (some limit) =
      match start.add? limit, start.add? ⟨0, gone + pipeGrace.toNanos⟩ with
      | some byLimit, some byGrace => .ok (some (byLimit.latest byGrace))
      | _, _ => .error .pastLastMoment := by
  -- A comparison with the last moment must not be evaluated: it counts down from a huge number.
  obtain ⟨add, hidden⟩ : ∃ add, add = start.add? := ⟨_, rfl⟩
  rw [pipeDeadline.eq_def, ← hidden]
  simp only
  cases add limit with
  | none => cases add ⟨0, gone + pipeGrace.toNanos⟩ <;> rfl
  | some byLimit => cases add ⟨0, gone + pipeGrace.toNanos⟩ <;> rfl

theorem exists_pipeDeadline_ended (status : Status) (room : HasRoom start limit gone) :
    ∃ deadline, pipeDeadline start (.ended gone status) (some limit) = .ok (some deadline) := by
  rw [pipeDeadline_ended status, Instant.add?_of_reaches room.byLimit,
    Instant.add?_of_reaches room.byGrace]
  exact ⟨_, rfl⟩

theorem pipeDeadline_lost (status : Status) :
    pipeDeadline start .lost timeout = pipeDeadline start (.ended 0 status) timeout := rfl

theorem exists_pipeDeadline_expired (reached : start.Reaches ⟨0, gone + pipeGrace.toNanos⟩) :
    ∃ deadline, pipeDeadline start (.expired gone) timeout = .ok (some deadline) := by
  have found := Instant.add?_of_reaches reached
  obtain ⟨add, hidden⟩ : ∃ add, add = start.add? := ⟨_, rfl⟩
  rw [← hidden] at found
  rw [pipeDeadline.eq_def, ← hidden]
  simp only [found]
  exact ⟨_, rfl⟩

end Process

namespace Behaviour

open Process

variable {World : Type} (b : Behaviour World) (start : Instant) (timeout : Option Duration)

/-- The process ends with a status before it is given up. -/
def EndsInTime (status : Status) : Prop :=
  ∃ time, b.ending = .ended time status ∧ InTime timeout time

/-- The time limit passes before the process is seen to end. -/
def Overruns : Prop :=
  timeout ≠ none ∧
    (b.ending = .endless ∨ ∃ time status, b.ending = .ended time status ∧ ¬ InTime timeout time)

/-- The process cannot be waited for, or ends in time without an exit code. -/
def Breaks : Prop :=
  b.ending = .lost ∨ (∃ signal, b.EndsInTime timeout (.signaled signal)) ∨
    b.EndsInTime timeout .unknown

/-- What is read from the pipes until the harness stops reading. -/
def Captures (stdout stderr : String) : Prop :=
  ∃ waited deadline, wait b.ending timeout = .ok waited ∧
    pipeDeadline start waited timeout = .ok deadline ∧
    collect start b.stdout deadline = .ok stdout ∧ collect start b.stderr deadline = .ok stderr

/-- Reading comes to an end: everything closes, or the clock reaches beyond the time limit. -/
def IsFinite : Prop :=
  match timeout with
  | none => b.ending ≠ .endless ∧ b.stdout.closed ≠ none ∧ b.stderr.closed ≠ none
  | some limit =>
    start.nanos + lookAfter limit.toNanos + pipeGrace.toNanos ≤ Instant.last.nanos

variable {b start timeout}

theorem lost_iff_wait (timeout : Option Duration) :
    b.ending = .lost ↔ wait b.ending timeout = .ok .lost := by
  cases b.ending with
  | lost => simp [wait]
  | endless => cases timeout <;> simp [wait]
  | ended time status =>
    cases timeout with
    | none => simp [wait]
    | some limit =>
      by_cases noticed : lookAfter (time * micro) ≤ lookAfter limit.toNanos <;>
        simp [wait, noticed]

theorem endsInTime_iff_wait {status : Status} :
    b.EndsInTime timeout status ↔ ∃ time, wait b.ending timeout = .ok (.ended time status) := by
  unfold EndsInTime
  cases b.ending with
  | lost => simp [wait]
  | endless => cases timeout <;> simp [wait]
  | ended time ended =>
    cases timeout with
    | none => simp [wait, InTime]
    | some limit =>
      by_cases noticed : lookAfter (time * micro) ≤ lookAfter limit.toNanos <;>
        simp [wait, InTime, noticed, and_assoc]

theorem overruns_iff_wait :
    b.Overruns timeout ↔ ∃ time, wait b.ending timeout = .ok (.expired time) := by
  unfold Overruns
  cases b.ending with
  | lost => simp [wait]
  | endless => cases timeout <;> simp [wait]
  | ended time status =>
    cases timeout with
    | none => simp [wait]
    | some limit =>
      by_cases noticed : lookAfter (time * micro) ≤ lookAfter limit.toNanos
      · simp [wait, InTime, noticed]
      · simp [wait, InTime, noticed, Nat.lt_of_not_le noticed]

theorem observe_eq (path : String) : observe b start timeout path = do
    let waited ← wait b.ending timeout
    let deadline ← pipeDeadline start waited timeout
    let stdout ← collect start b.stdout deadline
    let stderr ← collect start b.stderr deadline
    return waited.result path timeout stdout stderr := by
  unfold observe
  refine bind_congr fun waited => bind_congr fun _ => bind_congr fun _ => bind_congr fun _ => ?_
  rcases waited with ⟨_, _ | _ | _⟩ | _ | _ <;> rfl

theorem observe_eq_ok_iff {path : String} {answer : Except Fault RunResult} :
    observe b start timeout path = .ok answer ↔
      ∃ waited stdout stderr, wait b.ending timeout = .ok waited ∧
        b.Captures start timeout stdout stderr ∧
        answer = waited.result path timeout stdout stderr := by
  simp only [observe_eq, bind_eq_ok_iff, Captures]
  constructor
  · rintro ⟨waited, ends, deadline, until_, stdout, out, stderr, err, same⟩
    exact ⟨waited, stdout, stderr, ends, ⟨waited, deadline, ends, until_, out, err⟩,
      (Except.ok.inj same).symm⟩
  · rintro ⟨waited, stdout, stderr, ends, ⟨waited', deadline, ends', until_, out, err⟩, rfl⟩
    obtain rfl : waited = waited' := Except.ok.inj (ends.symm.trans ends')
    exact ⟨waited, ends, deadline, until_, stdout, out, stderr, err, rfl⟩

theorem exists_wait (finite : b.IsFinite start timeout) :
    ∃ waited, wait b.ending timeout = .ok waited := by
  cases timeout with
  | none =>
    cases ending : b.ending with
    | lost | ended => exact ⟨_, rfl⟩
    | endless => exact absurd ending finite.1
  | some limit =>
    cases b.ending with
    | lost | ended | endless => exact ⟨_, rfl⟩

theorem le_lookAfter (time : Nat) : time ≤ lookAfter time := by
  unfold lookAfter pollInterval
  omega

/-- What a process that is seen to end or is given up leaves of the time limit. -/
theorem gone_le_lookAfter {limit : Duration} {gone : Nat}
    (answer : wait b.ending (some limit) = .ok (.expired gone) ∨
      ∃ status, wait b.ending (some limit) = .ok (.ended gone status)) :
    gone ≤ lookAfter limit.toNanos := by
  cases ending : b.ending with
  | lost => simp [ending, wait] at answer
  | endless =>
    obtain rfl : lookAfter limit.toNanos = gone := by simpa [ending, wait] using answer
    exact Nat.le_refl _
  | ended time status =>
    by_cases noticed : lookAfter (time * micro) ≤ lookAfter limit.toNanos
    · obtain rfl : lookAfter (time * micro) = gone := by
        simpa [ending, wait, noticed] using answer
      exact noticed
    · obtain rfl : lookAfter limit.toNanos = gone := by
        simpa [ending, wait, noticed] using answer
      exact Nat.le_refl _

theorem exists_pipeDeadline_of_limit {limit : Duration} {waited : Waited}
    (room : start.nanos + lookAfter limit.toNanos + pipeGrace.toNanos ≤ Instant.last.nanos)
    (answer : wait b.ending (some limit) = .ok waited) :
    ∃ deadline, pipeDeadline start waited (some limit) = .ok (some deadline) := by
  have reached : start.Reaches ⟨0, lookAfter limit.toNanos + pipeGrace.toNanos⟩ := by
    rwa [Instant.Reaches, toNanos_nanos, ← Nat.add_assoc]
  have limit_room : start.Reaches limit := by
    apply reached.mono
    rw [toNanos_nanos]
    exact Nat.le_add_right_of_le (le_lookAfter limit.toNanos)
  have grace_room {gone : Nat} (h : gone ≤ lookAfter limit.toNanos) :
      start.Reaches ⟨0, gone + pipeGrace.toNanos⟩ := by
    apply reached.mono
    rw [toNanos_nanos, toNanos_nanos]
    exact Nat.add_le_add_right h pipeGrace.toNanos
  cases waited with
  | lost =>
    rw [pipeDeadline_lost .unknown]
    exact exists_pipeDeadline_ended .unknown ⟨limit_room, grace_room (Nat.zero_le _)⟩
  | ended gone status =>
    have early := gone_le_lookAfter (.inr ⟨status, answer⟩)
    exact exists_pipeDeadline_ended status ⟨limit_room, grace_room early⟩
  | expired gone =>
    have early := gone_le_lookAfter (.inl answer)
    exact exists_pipeDeadline_expired (grace_room early)

theorem pipeDeadline_none {waited : Waited} (answer : wait b.ending none = .ok waited) :
    pipeDeadline start waited none = .ok none := by
  cases waited with
  | lost | ended => rfl
  | expired time => exact absurd rfl (overruns_iff_wait.mpr ⟨time, answer⟩).1

theorem exists_collect (start : Instant) {p : Pipe} (closed : p.closed ≠ none) :
    ∃ text, collect start p none = .ok text := by
  rw [collect, if_pos (Option.isSome_iff_ne_none.mpr closed)]
  exact ⟨_, rfl⟩

theorem exists_captures_until {waited : Waited} {deadline : Instant}
    (answer : wait b.ending timeout = .ok waited)
    (found : pipeDeadline start waited timeout = .ok (some deadline)) :
    ∃ stdout stderr, b.Captures start timeout stdout stderr :=
  ⟨_, _, waited, some deadline, answer, found, rfl, rfl⟩

theorem exists_captures_unlimited {waited : Waited} (answer : wait b.ending none = .ok waited)
    (out_closed : b.stdout.closed ≠ none) (err_closed : b.stderr.closed ≠ none) :
    ∃ stdout stderr, b.Captures start none stdout stderr := by
  obtain ⟨stdout, out⟩ := exists_collect start out_closed
  obtain ⟨stderr, err⟩ := exists_collect start err_closed
  exact ⟨stdout, stderr, waited, none, answer, pipeDeadline_none answer, out, err⟩

theorem exists_captures (finite : b.IsFinite start timeout) :
    ∃ stdout stderr, b.Captures start timeout stdout stderr := by
  obtain ⟨waited, answer⟩ := exists_wait finite
  cases timeout with
  | none => exact exists_captures_unlimited answer finite.2.1 finite.2.2
  | some limit =>
    obtain ⟨deadline, found⟩ := exists_pipeDeadline_of_limit finite answer
    exact exists_captures_until answer found

theorem exists_observe (finite : b.IsFinite start timeout) (path : String) :
    ∃ answer, observe b start timeout path = .ok answer := by
  obtain ⟨waited, answer⟩ := exists_wait finite
  obtain ⟨stdout, stderr, captured⟩ := exists_captures finite
  exact ⟨_, observe_eq_ok_iff.mpr ⟨waited, stdout, stderr, answer, captured, rfl⟩⟩

theorem EndsInTime.unique {status status' : Status} (h : b.EndsInTime timeout status)
    (h' : b.EndsInTime timeout status') : status = status' := by
  obtain ⟨time, ending, -⟩ := h
  obtain ⟨time', ending', -⟩ := h'
  exact (Ending.ended.inj (ending.symm.trans ending')).2

theorem EndsInTime.not_overruns {status : Status} (h : b.EndsInTime timeout status) :
    ¬ b.Overruns timeout := by
  obtain ⟨time, ending, in_time⟩ := h
  rintro ⟨-, endless | ⟨time', status', ending', late⟩⟩
  · cases ending.symm.trans endless
  · obtain ⟨rfl, -⟩ := Ending.ended.inj (ending.symm.trans ending')
    exact late in_time

theorem Breaks.not_exits {code : Int} (h : b.Breaks timeout) :
    ¬ b.EndsInTime timeout (.exited code) := by
  intro exits
  rcases h with lost | ⟨signal, killed⟩ | unknown
  · obtain ⟨time, ending, -⟩ := exits
    cases lost.symm.trans ending
  · cases killed.unique exits
  · cases unknown.unique exits

theorem Breaks.not_overruns (h : b.Breaks timeout) : ¬ b.Overruns timeout := by
  rcases h with lost | ⟨signal, killed⟩ | unknown
  · rintro ⟨-, endless | ⟨time, status, ending, -⟩⟩
    · cases lost.symm.trans endless
    · cases lost.symm.trans ending
  · exact killed.not_overruns
  · exact unknown.not_overruns

theorem Captures.unique {stdout stderr stdout' stderr' : String}
    (h : b.Captures start timeout stdout stderr) (h' : b.Captures start timeout stdout' stderr') :
    stdout = stdout' ∧ stderr = stderr' := by
  obtain ⟨waited, deadline, answer, found, out, err⟩ := h
  obtain ⟨waited', deadline', answer', found', out', err'⟩ := h'
  obtain rfl : waited = waited' := Except.ok.inj (answer.symm.trans answer')
  obtain rfl : deadline = deadline' := Except.ok.inj (found.symm.trans found')
  exact ⟨Except.ok.inj (out.symm.trans out'), Except.ok.inj (err.symm.trans err')⟩

end Behaviour

end Conformance

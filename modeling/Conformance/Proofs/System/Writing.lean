import Conformance.Proofs.System.Machine

/-! # Programs that only write

A program that writes to its standard output and exits, on a machine where nothing else runs. The
harness gets all that was written, in order, and the status.
-/

namespace Conformance

namespace System

/-- What a process does that writes to its standard output, chunk by chunk, and exits. -/
inductive Act.Writes : Act → List (List UInt8) → Nat → Prop
  | exit (code : Nat) : Writes (.exit code) [] code
  | write {bytes next chunks code} (given : bytes.isEmpty = false)
      (onward : Writes (next (Except.ok () : Except Error Unit)) chunks code) :
      Writes (.call (.write 1 bytes) next) (bytes :: chunks) code

namespace World

/-- The chunks with the moments at which they are written, the first one at `clock`. -/
def stamped (clock : Nat) : List (List UInt8) → List (Nat × List UInt8)
  | [] => []
  | bytes :: chunks => (clock, bytes) :: stamped (clock + callTime) chunks

def loneProcess (f : Files) (clock : Nat) (act : Act) : Process where
  id := 1000
  parent := outside
  group := 1000
  clock
  act
  descriptors := [(0, 2), (1, 3), (2, 4)]
  here := f.here

/-- A world with one process, and with what it has written, newest first. -/
def lone (f : Files) (now clock : Nat) (act : Act) (heard : List (Nat × List UInt8)) : World where
  now
  files := f
  processes := [loneProcess f clock act]
  ports := [(4, .capture 1), (3, .capture 0), (2, .device .null)]
  captures := [(1, {}), (0, { chunks := heard })]
  nextProcess := 1001
  nextNumber := 5

/-- The same world after the process has ended, at the moment `time`. -/
def finished (f : Files) (now time code : Nat) (heard : List (Nat × List UInt8)) : World where
  now
  files := f
  processes := [{ loneProcess f time (.exit 0) with
    descriptors := [], ended := some (.exited code) }]
  captures := [(1, { closed := some time }), (0, { chunks := heard, closed := some time })]
  nextProcess := 1001
  nextNumber := 5

variable {f : Files} {now clock time code : Nat} {act : Act} {chunks : List (List UInt8)}
  {heard : List (Nat × List UInt8)}

theorem start_ofFiles (f : Files) (name : String) (args : List String) :
    (ofFiles f).start name args =
      (lone (ofFiles f).files 0 startTime (programs name args environment) [], ⟨1000, 0, 1⟩) := by
  unfold start
  generalize programs name args environment = act
  rfl

theorem readyAt_lone_of_writes (writes : act.Writes chunks code) :
    (lone f now clock act heard).readyAt (loneProcess f clock act) = some clock := by
  cases writes <;> rfl

theorem next?_lone (writes : act.Writes chunks code) (le : now ≤ clock) :
    (lone f now clock act heard).next? = some (clock, loneProcess f clock act) := by
  have ready : (lone f now clock act heard).readyAt (loneProcess f clock act) = some clock :=
    readyAt_lone_of_writes writes
  simp only [next?, lone, List.foldl_cons, List.foldl_nil] at ready ⊢
  rw [ready]
  simp [Nat.max_eq_left le]

theorem step_write {bytes : List UInt8} {next : (Call.write 1 bytes).Reply → Act}
    (given : bytes.isEmpty = false) :
    (lone f clock clock (.call (.write 1 bytes) next) heard).step programs
        (loneProcess f clock (.call (.write 1 bytes) next)) =
      lone f clock (clock + callTime) (next (Except.ok () : Except Error Unit))
        ((clock, bytes) :: heard) := by
  have performed : (lone f clock clock (.call (.write 1 bytes) next) heard).perform
      (loneProcess f clock (.call (.write 1 bytes) next)) (.write 1 bytes) next =
      lone f clock (clock + callTime) (next (Except.ok () : Except Error Unit))
        ((clock, bytes) :: heard) := by
    have port : (loneProcess f clock (.call (.write 1 bytes) next)).port? 1 = some 3 := rfl
    simp only [perform, port, given, Bool.false_eq_true, if_false]
    rfl
  exact performed

theorem step_exit :
    (lone f clock clock (.exit code) heard).step programs (loneProcess f clock (.exit code)) =
      finished f clock clock (code % 256) heard := by
  rfl

theorem run_of_done {done : World → Bool} {w : World} (isDone : done w = true)
    (until? : Option Nat) (fuel : Nat) : w.run programs until? done fuel = w := by
  cases fuel with
  | zero => rfl
  | succ fuel => rw [run, if_pos isDone]

theorem run_lone_succ (writes : act.Writes chunks code) {until? : Option Nat}
    (in_time : ∀ moment ∈ until?, clock ≤ moment) {done : World → Bool}
    (running : done (lone f now clock act heard) = false) (le : now ≤ clock) (fuel : Nat) :
    (lone f now clock act heard).run programs until? done (fuel + 1) =
      ((lone f clock clock act heard).step programs (loneProcess f clock act)).run programs until?
        done fuel := by
  have due : until?.any (· < clock) = false := by
    cases until? with
    | none => rfl
    | some moment => simpa using in_time moment rfl
  rw [run, if_neg (by simp [running]), next?_lone writes le]
  simp only [due, Bool.false_eq_true, if_false]
  rfl

/-- The moment at which a process ends that begins to write some chunks at `clock`. -/
def endOf (clock : Nat) (chunks : List (List UInt8)) : Nat := clock + callTime * chunks.length

theorem endOf_cons (clock : Nat) (bytes : List UInt8) (chunks : List (List UInt8)) :
    endOf clock (bytes :: chunks) = endOf (clock + callTime) chunks := by
  rw [endOf, endOf, List.length_cons, Nat.mul_succ, Nat.add_assoc, Nat.add_comm callTime]

theorem le_endOf (clock : Nat) (chunks : List (List UInt8)) : clock ≤ endOf clock chunks :=
  Nat.le_add_right ..

/-- A lone process that only writes has a step for each chunk, and one to exit. -/
theorem run_lone (writes : act.Writes chunks code) {until? : Option Nat}
    (in_time : ∀ moment ∈ until?, endOf clock chunks ≤ moment) {done : World → Bool}
    (running : ∀ now clock act heard, done (lone f now clock act heard) = false)
    (ended : ∀ time heard, done (finished f time time (code % 256) heard) = true) {fuel : Nat}
    (enough : chunks.length < fuel) (le : now ≤ clock) :
    (lone f now clock act heard).run programs until? done fuel =
      finished f (endOf clock chunks) (endOf clock chunks) (code % 256)
        ((stamped clock chunks).reverse ++ heard) := by
  induction writes generalizing now clock heard fuel with
  | exit code =>
    obtain ⟨fuel, rfl⟩ := Nat.exists_eq_succ_of_ne_zero (Nat.ne_zero_of_lt enough)
    have begins : ∀ moment ∈ until?, clock ≤ moment := in_time
    rw [run_lone_succ (.exit code) begins (running ..) le, step_exit, run_of_done (ended ..)]
    rfl
  | @write bytes next chunks code given onward ih =>
    obtain ⟨fuel, rfl⟩ := Nat.exists_eq_succ_of_ne_zero (Nat.ne_zero_of_lt enough)
    have begins : ∀ moment ∈ until?, clock ≤ moment := fun moment limit =>
      Nat.le_trans (le_endOf clock _) (in_time moment limit)
    rw [endOf_cons] at in_time ⊢
    rw [run_lone_succ (.write given onward) begins (running ..) le, step_write given,
      ih in_time ended (Nat.lt_of_succ_lt_succ enough) (Nat.le_add_right ..), stamped,
      List.reverse_cons, List.append_assoc, List.singleton_append]

theorem waitUntil_finished (f : Files) (now time code moment : Nat)
    (heard : List (Nat × List UInt8)) :
    (finished f now time code heard).waitUntil moment =
      finished f (max now moment) time code heard := by
  have idle : (finished f now time code heard).next? = none := rfl
  obtain ⟨fuel, many⟩ : ∃ fuel, manySteps = fuel + 1 := ⟨manySteps - 1, rfl⟩
  unfold waitUntil
  split
  · rw [many, run, if_neg Bool.false_ne_true, idle]
    rfl
  · next early =>
    have past : moment ≤ now := Nat.not_lt.mp early
    rw [Nat.max_eq_left past]

/-! ## What the harness sees -/

/-- A pipe to which chunks are written, the first one at `clock`, and which closes at `time`. -/
def pipeOf (clock time : Nat) (chunks : List (List UInt8)) : Pipe where
  chunks := stamped clock chunks
  closed := some time

/-- What the harness sees of a process that writes some chunks, the first one at `clock`, and
exits. -/
def writer (clock : Nat) (chunks : List (List UInt8)) (code : Nat) (after : World) :
    Behaviour World where
  stdout := pipeOf clock (endOf clock chunks) chunks
  stderr := pipeOf clock (endOf clock chunks) []
  ending := .ended (endOf clock chunks) (.exited (code % 256 : Nat))
  after

theorem drain_finished (f : Files) (now time code : Nat) (heard : List (Nat × List UInt8))
    (moment : Option Nat) :
    (finished f now time code heard).drain ⟨1000, 0, 1⟩ moment =
      finished f now time code heard := by
  unfold drain
  exact run_of_done rfl moment manySteps

theorem pipeSince_finished (f : Files) (now time code : Nat) (heard : List (Nat × List UInt8)) :
    (finished f now time code heard).pipeSince 0 0 = ⟨heard.reverse, some time⟩ := by
  have whole : heard.reverse.map (fun chunk => (chunk.1 - 0, chunk.2)) = heard.reverse :=
    List.map_id _
  change (⟨heard.reverse.map (fun chunk => (chunk.1 - 0, chunk.2)), some (time - 0)⟩ : Pipe) = _
  rw [whole, Nat.sub_zero]

theorem endOf_le_expiry {limit : Duration} {time : Nat}
    (in_time : Process.lookAfter (time * Process.micro) ≤ Process.lookAfter limit.toNanos) :
    time ≤ Process.lookAfter limit.toNanos / Process.micro := by
  have seen := Nat.le_trans (Behaviour.le_lookAfter (time * Process.micro)) in_time
  exact (Nat.le_div_iff_mul_le (by decide)).mpr seen

theorem observe_lone (writes : act.Writes chunks code) {timeout : Option Duration}
    (in_time : Process.InTime timeout (endOf clock chunks)) (enough : chunks.length < manySteps) :
    ∃ after, (lone f 0 clock act []).observe ⟨1000, 0, 1⟩ timeout =
      writer clock chunks code after := by
  unfold observe
  extract_lets begin micros expiry isOver ran ending waited deadline drained
  have before : ∀ moment ∈ expiry, endOf clock chunks ≤ moment := by
    intro moment limited
    obtain ⟨limit, given, rfl⟩ := Option.map_eq_some_iff.mp limited
    exact Nat.le_trans (endOf_le_expiry (in_time limit given)) (Nat.le_add_left ..)
  have ran_eq : ran = finished f (endOf clock chunks) (endOf clock chunks) (code % 256)
      ((stamped clock chunks).reverse ++ []) :=
    run_lone writes before (fun _ _ _ _ => rfl) (fun _ _ => rfl) enough (Nat.zero_le clock)
  rw [List.append_nil] at ran_eq
  have ending_eq : ending = .ended (endOf clock chunks) (.exited (code % 256 : Nat)) := by
    unfold ending
    rw [ran_eq]
    rfl
  obtain ⟨gone, answer, -⟩ :=
    Behaviour.wait_of_inTime (b := ({ ending, after := () } : Behaviour Unit)) ending_eq in_time
  have waited_eq : ∃ now, waited = finished f now (endOf clock chunks) (code % 256)
      (stamped clock chunks).reverse := by
    unfold waited
    rw [answer, ran_eq]
    exact ⟨_, waitUntil_finished ..⟩
  obtain ⟨now, waited_eq⟩ := waited_eq
  clear_value deadline
  have drained_eq : drained = finished f now (endOf clock chunks) (code % 256)
      (stamped clock chunks).reverse := by
    cases deadline with
    | ok moment => exact (congrArg (drain · _ _) waited_eq).trans (drain_finished ..)
    | error stall => exact waited_eq
  refine ⟨drained.leave ⟨1000, 0, 1⟩, ?_⟩
  rw [drained_eq, ending_eq]
  have heard := pipeSince_finished f now (endOf clock chunks) (code % 256)
    (stamped clock chunks).reverse
  rw [List.reverse_reverse] at heard
  rw [show begin = 0 from rfl, heard]
  rfl

/-- What the harness sees of a program that only writes. -/
theorem launch_ofFiles (f : Files) {executable name : String} {args : List String}
    {timeout : Option Duration}
    (found : (ofFiles f).programOf? (inward executable) (args.map inward) = some name)
    (writes : (programs name (inward executable :: args.map inward) environment).Writes chunks code)
    (in_time : Process.InTime timeout (endOf startTime chunks))
    (enough : chunks.length < manySteps) :
    ∃ after, machine.launch (ofFiles f) executable args timeout =
      some (writer startTime chunks code after) := by
  obtain ⟨after, seen⟩ := observe_lone (f := (ofFiles f).files) writes in_time enough
  refine ⟨after, Option.map_eq_some_iff.mpr ⟨name, found, ?_⟩⟩
  rw [← seen, start_ofFiles]

end World

end System

/-! ## What is read -/

namespace Pipe

variable {p : Pipe} {time clock : Nat} {chunks : List (List UInt8)}

/-- The pipe is closed, and nothing arrives after a moment. -/
structure IsDone (p : Pipe) (time : Nat) : Prop where
  closed : p.closed ≠ none
  arrived : ∀ chunk ∈ p.chunks, chunk.1 ≤ time

def text (p : Pipe) : String := String.ofList (Text.decodeLossy (p.chunks.flatMap Prod.snd))

theorem bytesUntil_eq (done : p.IsDone time) {moment : Nat} (le : time * Process.micro ≤ moment) :
    Process.bytesUntil p moment = p.chunks.flatMap Prod.snd := by
  have all : ∀ chunk ∈ p.chunks, decide (chunk.1 * Process.micro ≤ moment) = true :=
    fun chunk among => decide_eq_true
      (Nat.le_trans (Nat.mul_le_mul_right _ (done.arrived chunk among)) le)
  rw [Process.bytesUntil, List.filter_eq_self.mpr all]

open System.World (stamped pipeOf endOf)

theorem flatMap_stamped (clock : Nat) (chunks : List (List UInt8)) :
    (stamped clock chunks).flatMap Prod.snd = chunks.flatten := by
  induction chunks generalizing clock with
  | nil => rfl
  | cons bytes chunks ih => rw [stamped, List.flatMap_cons, ih, List.flatten_cons]

theorem text_pipeOf (clock time : Nat) (chunks : List (List UInt8)) :
    (pipeOf clock time chunks).text = String.ofList (Text.decodeLossy chunks.flatten) := by
  rw [text, pipeOf, flatMap_stamped]

theorem text_pipeOf_nil (clock time : Nat) : (pipeOf clock time []).text = "" := by
  rw [text_pipeOf, List.flatten_nil, Text.decodeLossy, Text.utf8Parts]
  rfl

theorem le_of_mem_stamped {chunk : Nat × List UInt8} (among : chunk ∈ stamped clock chunks) :
    chunk.1 ≤ endOf clock chunks := by
  induction chunks generalizing clock with
  | nil => cases among
  | cons bytes chunks ih =>
    rcases List.mem_cons.mp among with rfl | later
    · exact System.World.le_endOf clock _
    · rw [System.World.endOf_cons]
      exact ih later

theorem isDone_pipeOf (clock : Nat) (chunks : List (List UInt8)) :
    (pipeOf clock (endOf clock chunks) chunks).IsDone (endOf clock chunks) where
  closed := nofun
  arrived _ := le_of_mem_stamped

end Pipe

theorem Instant.le_latest (i j : Instant) : j.nanos ≤ (i.latest j).nanos := by
  unfold latest
  split
  · exact Nat.le_refl _
  · next later => exact Nat.le_of_not_le later

namespace Behaviour

open Process

variable {World : Type} {b : Behaviour World} {start : Instant} {timeout : Option Duration}
  {time : Nat} {status : Status}

/-- A process that ends in time and leaves nothing behind that writes is heard to the end. -/
theorem captures_of_isDone (ends : b.ending = .ended time status) (in_time : InTime timeout time)
    (room : ∀ limit ∈ timeout, HasRoom start limit (lookAfter (time * micro)))
    (out : b.stdout.IsDone time) (err : b.stderr.IsDone time) :
    b.Captures start timeout b.stdout.text b.stderr.text := by
  obtain ⟨gone, answer, seen⟩ := wait_of_inTime ends in_time
  cases timeout with
  | none =>
    refine ⟨_, none, answer, rfl, ?_, ?_⟩
    · exact if_pos (Option.isSome_iff_ne_none.mpr out.closed)
    · exact if_pos (Option.isSome_iff_ne_none.mpr err.closed)
  | some limit =>
    obtain rfl := seen limit rfl
    have room := room limit rfl
    have found : pipeDeadline start (.ended (lookAfter (time * micro)) status) (some limit) = _ :=
      pipeDeadline_ended status
    rw [Instant.add?_of_reaches room.byLimit, Instant.add?_of_reaches room.byGrace] at found
    -- The deadline is not before the grace is over, which begins when the end is noticed.
    have late (byLimit : Instant) : time * micro ≤ (byLimit.latest ⟨start.nanos +
        Duration.toNanos ⟨0, lookAfter (time * micro) + pipeGrace.toNanos⟩⟩).nanos -
          start.nanos := by
      rw [toNanos_nanos]
      apply Nat.le_sub_of_add_le'
      calc start.nanos + time * micro
        _ ≤ start.nanos + (lookAfter (time * micro) + pipeGrace.toNanos) :=
          Nat.add_le_add_left (Nat.le_add_right_of_le (le_lookAfter _)) _
        _ ≤ _ := byLimit.le_latest ⟨_⟩
    refine ⟨_, _, answer, found, ?_, ?_⟩
    · rw [collect, Pipe.bytesUntil_eq out (late _)]
      rfl
    · rw [collect, Pipe.bytesUntil_eq err (late _)]
      rfl

end Behaviour

namespace Suite

open Conformance.System (machine longestLimit inward programs)
open Conformance.System.World (environment endOf manySteps startTime writer)

variable {s : Suite} {path name : String} {f : Files} {chunks : List (List UInt8)} {code : Nat}

theorem hasRoom_of_le {seconds time : Nat} (le : seconds ≤ longestLimit)
    (in_time : Process.InTime (some ⟨seconds, 0⟩) time) :
    Process.HasRoom machine.start ⟨seconds, 0⟩ (Process.lookAfter (time * Process.micro)) := by
  refine Process.hasRoom_of_reaches in_time ?_
  have room := System.room_of_le le
  rwa [Process.lookAfter_seconds, Process.toNanos_mk, Nat.add_zero, Nat.add_assoc] at room

/-- An interpreter that only writes exits with all that it has written. -/
theorem exitsWith_of_writes
    (found : (System.World.ofFiles f).programOf? (inward s.interpreter.executable)
      ((s.interpreter.arguments path).map inward) = some name)
    (writes : (programs name (inward s.interpreter.executable ::
      (s.interpreter.arguments path).map inward) environment).Writes chunks code)
    (enough : chunks.length < manySteps)
    (in_time : Process.InTime s.interpreter.timeout (endOf startTime chunks))
    (limited : ∀ limit ∈ s.interpreter.timeout, ∃ seconds ≤ longestLimit, limit = ⟨seconds, 0⟩) :
    s.ExitsWith machine path (System.World.ofFiles f)
      ⟨String.ofList (Text.decodeLossy chunks.flatten), "", (code % 256 : Nat)⟩ := by
  obtain ⟨after, launched⟩ := System.World.launch_ofFiles f found writes in_time enough
  refine ⟨_, launched, ⟨_, rfl, in_time⟩, ?_⟩
  have room : ∀ limit ∈ s.interpreter.timeout,
      Process.HasRoom machine.start limit
        (Process.lookAfter (endOf startTime chunks * Process.micro)) := by
    intro limit given
    obtain ⟨seconds, le, rfl⟩ := limited limit given
    rw [Option.mem_def] at given
    exact hasRoom_of_le le (given ▸ in_time)
  have captured : (writer startTime chunks code after).Captures machine.start
      s.interpreter.timeout _ _ :=
    Behaviour.captures_of_isDone rfl in_time room (Pipe.isDone_pipeOf startTime chunks)
      ⟨nofun, fun _ => nofun⟩
  rwa [writer, Pipe.text_pipeOf, Pipe.text_pipeOf_nil] at captured

end Suite

end Conformance

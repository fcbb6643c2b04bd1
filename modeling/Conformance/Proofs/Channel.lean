import Conformance.Process
import Conformance.Proofs.Text.Utf8

/-! # Reading a pipe

A drain reads a pipe chunk by chunk and puts the chunks into a queue. A collector takes them out,
and returns the text of their bytes when the queue is empty and the drain has hung up or a deadline
has passed. When each of them moves, and when the deadline passes, is left open; no fairness is
assumed.
-/

namespace Conformance

/-- The chunks that the drain has not come to, those in the queue, and the bytes of those that the
collector has; whether the drain has hung up, and whether the deadline has passed. -/
structure Channel where
  unread : List (List UInt8)
  queue : List (List UInt8) := []
  bytes : List UInt8 := []
  hungUp : Bool := false
  struck : Bool := false
deriving DecidableEq, Repr

namespace Channel

/-- The drain sends a chunk that it read, after any number of interrupted tries; it hangs up at the
end of the pipe, or when reading fails. The deadline strikes. The collector receives a chunk. -/
inductive Event where
  | send
  | close
  | fail
  | strike
  | receive
deriving DecidableEq, Repr

/-- One event. Only a limited run has a deadline. What is in the queue is received even when the
deadline has passed. -/
inductive Step (limited : Bool) : Channel → Event → Channel → Prop
  | send {c chunk rest} (on : c.hungUp = false) (next : c.unread = chunk :: rest) :
      Step limited c .send { c with unread := rest, queue := c.queue ++ [chunk] }
  | close {c} (on : c.hungUp = false) (ended : c.unread = []) :
      Step limited c .close { c with hungUp := true }
  | fail {c} (on : c.hungUp = false) : Step limited c .fail { c with hungUp := true }
  | strike {c} (deadline : limited = true) (ahead : c.struck = false) :
      Step limited c .strike { c with struck := true }
  | receive {c chunk rest} (next : c.queue = chunk :: rest) :
      Step limited c .receive { c with queue := rest, bytes := c.bytes ++ chunk }

inductive Execution (chunks : List (List UInt8)) (limited : Bool) : List Event → Channel → Prop
  | start : Execution chunks limited [] { unread := chunks }
  | step {events c event c'} : Execution chunks limited events c → Step limited c event c' →
      Execution chunks limited (events ++ [event]) c'

/-- The collector looks, finds that there is nothing to wait for, and returns this text. -/
def Returns (c : Channel) (text : String) : Prop :=
  c.queue = [] ∧ (c.hungUp = true ∨ c.struck = true) ∧
    text = String.ofList (Text.decodeLossy c.bytes)

def pending (c : Channel) : Nat :=
  2 * c.unread.length + c.queue.length + (!c.hungUp).toNat + (!c.struck).toNat

/-- What the events so far say of a channel: the chunks are those that the collector has, whole and
in order, then the queue, then those not read, and as many were sent as are not in the last part. -/
structure Accounts (chunks : List (List UInt8)) (limited : Bool) (events : List Event)
    (c : Channel) : Prop where
  parts : ∃ taken, chunks = taken ++ c.queue ++ c.unread ∧ c.bytes = taken.flatten ∧
    events.count .send = (taken ++ c.queue).length
  hungUp : c.hungUp = true → .close ∈ events ∨ .fail ∈ events
  closed : .close ∈ events → c.hungUp = true ∧ c.unread = []
  struck : c.struck = true → limited = true

variable {chunks : List (List UInt8)} {limited : Bool} {events : List Event} {c c' : Channel}
  {event : Event} {text : String}

theorem step_accounts (accounts : Accounts chunks limited events c)
    (step : Step limited c event c') : Accounts chunks limited (events ++ [event]) c' := by
  obtain ⟨⟨taken, parts, bytes, sent⟩, hungUp, closed, struck⟩ := accounts
  have earlier : c.hungUp = true → .close ∈ events ++ [event] ∨ .fail ∈ events ++ [event] :=
    fun hung => (hungUp hung).imp (List.mem_append_left _) (List.mem_append_left _)
  -- a drain that sends, closes or fails has not closed before
  have open_ : c.hungUp = false → .close ∉ events := by
    intro on before
    rw [(closed before).1] at on
    cases on
  cases step with
  | @send chunk rest on next =>
    refine ⟨⟨taken, ?_, bytes, ?_⟩, earlier, fun before => ?_, struck⟩
    · simp [parts, next]
    · simp [sent, List.count_append, Nat.add_assoc]
    · exact absurd (by simpa using before) (open_ on)
  | close on ended =>
    refine ⟨⟨taken, parts, bytes, ?_⟩, fun _ => .inl (by simp), fun _ => ⟨rfl, ended⟩, struck⟩
    simp [sent, List.count_append]
  | fail on =>
    refine ⟨⟨taken, parts, bytes, ?_⟩, fun _ => .inr (by simp), fun before => ?_, struck⟩
    · simp [sent, List.count_append]
    · exact absurd (by simpa using before) (open_ on)
  | strike deadline ahead =>
    refine ⟨⟨taken, parts, bytes, ?_⟩, earlier, fun before => ?_, fun _ => deadline⟩
    · simp [sent, List.count_append]
    · exact closed (by simpa using before)
  | @receive chunk rest next =>
    refine ⟨⟨taken ++ [chunk], ?_, ?_, ?_⟩, earlier, fun before => ?_, struck⟩
    · simp [parts, next]
    · simp [bytes]
    · simp [sent, next, List.count_append]
    · exact closed (by simpa using before)

theorem Execution.accounts (execution : Execution chunks limited events c) :
    Accounts chunks limited events c := by
  induction execution with
  | start => exact ⟨⟨[], rfl, rfl, rfl⟩, nofun, nofun, nofun⟩
  | step _ step ih => exact step_accounts ih step

theorem Step.pending (step : Step limited c event c') : c'.pending + 1 = c.pending := by
  cases step with
  | send on next =>
    simp only [Channel.pending, next, List.length_append, List.length_cons, List.length_nil]
    omega
  | close on ended => simp [Channel.pending, on]; omega
  | fail on => simp [Channel.pending, on]; omega
  | strike deadline ahead => simp [Channel.pending, ahead]
  | receive next => simp [Channel.pending, next]; omega

/-- No run goes on for ever. -/
theorem Execution.length_add_pending (execution : Execution chunks limited events c) :
    events.length + c.pending = 2 * chunks.length + 2 := by
  induction execution with
  | start => simp [Channel.pending]
  | step _ step ih =>
    have one_less := step.pending
    rw [List.length_append, List.length_singleton]
    omega

theorem Execution.exists_returns (execution : Execution chunks limited events c)
    (ended : c.hungUp = true ∨ c.struck = true) : ∃ c' text,
      Execution chunks limited (events ++ List.replicate c.queue.length .receive) c' ∧
        c'.Returns text := by
  -- from here on the collector moves alone, and takes out what is in the queue
  induction waiting : c.queue generalizing events c with
  | nil => exact ⟨c, _, by simpa using execution, waiting, ended, rfl⟩
  | cons chunk rest ih =>
    obtain ⟨c', text, execution', returns⟩ := ih (execution.step (.receive waiting)) ended rfl
    refine ⟨c', text, ?_, returns⟩
    rwa [List.append_assoc, List.singleton_append, ← List.replicate_succ] at execution'

theorem Execution.text_eq (execution : Execution chunks limited events c)
    (returns : c.Returns text) :
    text = String.ofList (Text.decodeLossy (chunks.take (events.count .send)).flatten) := by
  obtain ⟨⟨taken, parts, bytes, sent⟩, -⟩ := execution.accounts
  obtain ⟨empty, -, rfl⟩ := returns
  rw [empty, List.append_nil] at parts sent
  rw [bytes, parts, sent, List.take_left]

theorem Execution.take_eq (execution : Execution chunks limited events c)
    (closed : .close ∈ events) : chunks.take (events.count .send) = chunks := by
  obtain ⟨⟨taken, parts, -, sent⟩, -, atEnd, -⟩ := execution.accounts
  rw [(atEnd closed).2, List.append_nil] at parts
  rw [parts, sent, List.take_length]

theorem Execution.closed_of_returns (execution : Execution chunks limited events c)
    (returns : c.Returns text) (unlimited : limited = false) (reads : .fail ∉ events) :
    .close ∈ events := by
  obtain ⟨-, hungUp, -, struck⟩ := execution.accounts
  rcases returns.2.1 with hung | passed
  · exact (hungUp hung).resolve_right reads
  · rw [struck passed] at unlimited
    cases unlimited

theorem Execution.send_front {k : Nat} (within : k ≤ chunks.length) :
    Execution chunks limited (List.replicate k .send)
      { unread := chunks.drop k, queue := chunks.take k } := by
  induction k with
  | zero => exact .start
  | succ k ih =>
    have next := (ih (Nat.le_of_succ_le within)).step
      (.send rfl (List.drop_eq_getElem_cons (Nat.lt_of_succ_le within)))
    rwa [← List.replicate_succ', ← List.take_succ_eq_append_getElem] at next

end Channel

/-! ## Pipes with times -/

namespace Pipe

def Ordered (p : Pipe) : Prop := p.chunks.Pairwise fun a b => a.1 ≤ b.1

instance (p : Pipe) : Decidable p.Ordered := inferInstanceAs (Decidable (p.chunks.Pairwise _))

def inTime (p : Pipe) (start : Instant) : Option Instant → Nat
  | none => p.chunks.length
  | some deadline =>
    p.chunks.countP fun chunk => chunk.1 * Process.micro ≤ deadline.nanos - start.nanos

/-- A run that keeps the times of a pipe: the chunks that arrive in time are sent, the drain comes
to the end only if the pipe is closed at some time, and it can always read on. -/
structure Times (p : Pipe) (start : Instant) (deadline : Option Instant)
    (events : List Channel.Event) : Prop where
  sends : events.count .send = p.inTime start deadline
  closes : .close ∈ events → p.closed.isSome = true
  reads : .fail ∉ events

variable {p : Pipe} {start : Instant} {deadline : Option Instant} {events : List Channel.Event}
  {c : Channel} {text : String}

theorem filter_eq_take {chunks : List (Nat × List UInt8)}
    (ordered : chunks.Pairwise fun a b => a.1 ≤ b.1) (limit : Nat) :
    chunks.filter (fun chunk => chunk.1 * Process.micro ≤ limit) =
      chunks.take (chunks.countP fun chunk => chunk.1 * Process.micro ≤ limit) := by
  induction chunks with
  | nil => rfl
  | cons chunk chunks ih =>
    obtain ⟨first, rest⟩ := List.pairwise_cons.mp ordered
    by_cases arrived : chunk.1 * Process.micro ≤ limit
    · simp [arrived, ih rest]
    · have late : ∀ later ∈ chunk :: chunks, ¬ later.1 * Process.micro ≤ limit := by
        refine List.forall_mem_cons.mpr ⟨arrived, fun later listed arrived' => arrived ?_⟩
        exact Nat.le_trans (Nat.mul_le_mul_right _ (first later listed)) arrived'
      have no_more :
          (chunk :: chunks).countP (fun chunk => chunk.1 * Process.micro ≤ limit) = 0 := by
        simpa only [List.countP_eq_zero, decide_eq_true_eq] using late
      rw [no_more, List.take_zero, List.filter_eq_nil_iff]
      simpa only [decide_eq_true_eq] using late

theorem inTime_le (p : Pipe) (start : Instant) (deadline : Option Instant) :
    p.inTime start deadline ≤ (p.chunks.map Prod.snd).length := by
  rw [List.length_map]
  cases deadline with
  | none => exact Nat.le_refl _
  | some deadline => exact List.countP_le_length

theorem Ordered.collect_eq (ordered : p.Ordered)
    (closes : deadline = none → p.closed.isSome = true) :
    Process.collect start p deadline = .ok (String.ofList
      (Text.decodeLossy ((p.chunks.map Prod.snd).take (p.inTime start deadline)).flatten)) := by
  cases deadline with
  | none =>
    rw [Process.collect, if_pos (closes rfl), inTime, ← List.length_map Prod.snd, List.take_length,
      List.flatMap_def]
  | some deadline =>
    rw [Process.collect, Process.bytesUntil, filter_eq_take ordered, List.flatMap_def,
      List.map_take, inTime]

theorem Times.collect_eq (times : p.Times start deadline events) (ordered : p.Ordered)
    (execution : Channel.Execution (p.chunks.map Prod.snd) deadline.isSome events c)
    (returns : c.Returns text) : Process.collect start p deadline = .ok text := by
  rw [ordered.collect_eq, ← times.sends, execution.text_eq returns]
  rintro rfl
  exact times.closes (execution.closed_of_returns returns rfl times.reads)

theorem exists_execution (p : Pipe) (start : Instant) (deadline : Option Instant)
    (closes : deadline = none → p.closed.isSome = true) : ∃ events c text,
      p.Times start deadline events ∧
        Channel.Execution (p.chunks.map Prod.snd) deadline.isSome events c ∧ c.Returns text := by
  have sent : Channel.Execution (p.chunks.map Prod.snd) deadline.isSome
      (List.replicate (p.inTime start deadline) .send) _ := .send_front (p.inTime_le start deadline)
  cases deadline with
  | none =>
    have ended : (p.chunks.map Prod.snd).drop (p.inTime start none) = [] := by
      rw [inTime, ← List.length_map Prod.snd, List.drop_length]
    obtain ⟨c, text, execution, returns⟩ := (sent.step (.close rfl ended)).exists_returns (.inl rfl)
    refine ⟨_, c, text, ⟨?_, fun _ => closes rfl, ?_⟩, execution, returns⟩
    · simp [List.count_append, List.count_replicate]
    · simp [List.mem_replicate]
  | some deadline =>
    obtain ⟨c, text, execution, returns⟩ := (sent.step (.strike rfl rfl)).exists_returns (.inr rfl)
    refine ⟨_, c, text, ⟨?_, ?_, ?_⟩, execution, returns⟩
    · simp [List.count_append, List.count_replicate]
    · simp [List.mem_replicate]
    · simp [List.mem_replicate]

/-- What is read from a pipe is what the collector returns in the runs that keep its times. -/
theorem Ordered.collect_eq_ok_iff (ordered : p.Ordered) :
    Process.collect start p deadline = .ok text ↔ ∃ events c,
      p.Times start deadline events ∧
        Channel.Execution (p.chunks.map Prod.snd) deadline.isSome events c ∧ c.Returns text := by
  constructor
  · intro read
    have closes : deadline = none → p.closed.isSome = true := by
      rintro rfl
      cases closed : p.closed with
      | none => simp [Process.collect, closed] at read
      | some time => rfl
    obtain ⟨events, c, text', times, execution, returns⟩ := p.exists_execution start deadline closes
    have read' := times.collect_eq ordered execution returns
    rw [read] at read'
    obtain rfl := Except.ok.inj read'
    exact ⟨events, c, times, execution, returns⟩
  · rintro ⟨events, c, times, execution, returns⟩
    exact times.collect_eq ordered execution returns

end Pipe

namespace Channel

variable {chunks : List (List UInt8)} {limited : Bool} {events : List Event} {c : Channel}

/-- Every run is finite, and comes to an answer once the drain has hung up or the deadline has
passed. An answer is the text of the chunks sent, whole and in order: of all chunks if the drain
came to the end of the pipe, be it before the deadline or after, or if there is no deadline and
reading did not fail. So a string whose bytes went into the pipe comes out of it, wherever they were
cut. A pipe with the times of the run is read with the same answer. -/
theorem returns_decoded_chunks (execution : Execution chunks limited events c) :
    events.length ≤ 2 * chunks.length + 2 ∧
    (c.hungUp = true ∨ c.struck = true → ∃ c' text,
      Execution chunks limited (events ++ List.replicate c.queue.length .receive) c' ∧
        c'.Returns text) ∧
    ∀ text, c.Returns text →
      text = String.ofList (Text.decodeLossy (chunks.take (events.count .send)).flatten) ∧
      (.close ∈ events ∨ limited = false ∧ .fail ∉ events →
        text = String.ofList (Text.decodeLossy chunks.flatten) ∧
        ∀ s : String, chunks.flatten = s.toUTF8.data.toList → text = s) ∧
      ∀ (start : Instant) (p : Pipe) (deadline : Option Instant),
        p.chunks.map Prod.snd = chunks → deadline.isSome = limited → p.Ordered →
          p.Times start deadline events → Process.collect start p deadline = .ok text := by
  refine ⟨?_, execution.exists_returns, fun text returns => ⟨execution.text_eq returns, ?_, ?_⟩⟩
  · have length := execution.length_add_pending
    omega
  · intro ended
    have closed : .close ∈ events := by
      rcases ended with closed | ⟨unlimited, reads⟩
      · exact closed
      · exact execution.closed_of_returns returns unlimited reads
    have whole := execution.text_eq returns
    rw [execution.take_eq closed] at whole
    refine ⟨whole, fun s same => ?_⟩
    rw [whole, same, ← Text.encode_toList, Text.decodeLossy_encode, String.ofList_toList]
  · rintro start p deadline rfl rfl ordered times
    exact times.collect_eq ordered execution returns

def severed : List (List UInt8) := [[0x61, 0xE2], [0x82, 0xAC], [0x62]]

def lateRun : List Event :=
  [.send, .receive, .send, .strike, .send, .receive, .close, .receive]

def latePipe : Pipe := { chunks := [3, 5, 8].zip severed, closed := some 13 }

theorem exists_lateRun : ∃ c text, Execution severed true lateRun c ∧ c.Returns text := by
  have begun : Execution severed true [] _ := .start
  have first := (begun.step (.send rfl rfl)).step (.receive rfl)
  have passed := (first.step (.send rfl rfl)).step (.strike rfl rfl)
  have last := (passed.step (.send rfl rfl)).step (.receive rfl)
  exact ⟨_, _, (last.step (.close rfl rfl)).step (.receive rfl), rfl, .inl rfl, rfl⟩

/-- The deadline strikes while most is still to be read, and the three characters come out whole. -/
theorem returns_decoded_chunks_severed :
    (∃ c, Execution severed true lateRun c ∧ c.Returns "a\u20acb") ∧
      latePipe.Ordered ∧ latePipe.Times ⟨0⟩ (some ⟨9000⟩) lateRun ∧
      Process.collect ⟨0⟩ latePipe (some ⟨9000⟩) = .ok "a\u20acb" := by
  obtain ⟨c, text, execution, returns⟩ := exists_lateRun
  obtain ⟨-, -, answers⟩ := returns_decoded_chunks execution
  obtain ⟨-, whole, read⟩ := answers text returns
  obtain rfl := (whole (.inl (by decide))).2 "a\u20acb" (by decide)
  have ordered : latePipe.Ordered := by decide
  have times : latePipe.Times ⟨0⟩ (some ⟨9000⟩) lateRun := ⟨by decide, by decide, by decide⟩
  exact ⟨⟨c, execution, returns⟩, ordered, times, read ⟨0⟩ latePipe _ rfl rfl ordered times⟩

end Channel

end Conformance

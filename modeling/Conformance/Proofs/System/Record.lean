import Conformance.System.Kernel

/-! # The record of a listener

A listener notes what is written with the moment at which it is. Whatever processes ask of the
system, time does not run backwards, so the record stays in order and none of it lies ahead.
-/

namespace Conformance.System

namespace Capture

/-- What was heard is in order, newest first, and none of it lies ahead. -/
structure IsRecord (now : Nat) (c : Capture) : Prop where
  ordered : c.chunks.Pairwise fun later earlier => earlier.1 ≤ later.1
  past : ∀ chunk ∈ c.chunks, chunk.1 ≤ now

variable {now later : Nat} {c : Capture}

theorem isRecord_empty (now : Nat) : IsRecord now {} := ⟨.nil, nofun⟩

theorem IsRecord.mono (h : c.IsRecord now) (le : now ≤ later) : c.IsRecord later :=
  ⟨h.ordered, fun chunk heard => Nat.le_trans (h.past chunk heard) le⟩

theorem IsRecord.cons (h : c.IsRecord now) (bytes : List UInt8) :
    IsRecord now { c with chunks := (now, bytes) :: c.chunks } where
  ordered := List.pairwise_cons.mpr ⟨h.past, h.ordered⟩
  past := List.forall_mem_cons.mpr ⟨Nat.le_refl now, h.past⟩

end Capture

namespace World

def IsRecorded (w : World) : Prop := ∀ entry ∈ w.captures, entry.2.IsRecord w.now

/-- A change that takes no time and keeps the records. -/
structure Keeps (w w' : World) : Prop where
  now : w'.now = w.now
  recorded : w.IsRecorded → w'.IsRecorded

variable {w w' w'' : World}

theorem isRecord_capture (h : w.IsRecorded) (number : Nat) : (w.capture number).IsRecord w.now := by
  rw [capture]
  cases found : w.captures.find? fun entry => entry.1 = number with
  | none => exact Capture.isRecord_empty w.now
  | some entry => exact h entry (List.mem_of_find?_eq_some found)

/-! ## Changes of the state -/

namespace Keeps

theorem refl (w : World) : w.Keeps w := ⟨rfl, id⟩

theorem trans (h : w.Keeps w') (h' : w'.Keeps w'') : w.Keeps w'' :=
  ⟨h'.now.trans h.now, h'.recorded ∘ h.recorded⟩

theorem of_captures (now : w'.now = w.now) (same : w'.captures = w.captures) : w.Keeps w' :=
  ⟨now, by simp only [IsRecorded, now, same, imp_self]⟩

theorem ite {c : Prop} [Decidable c] (yes : w.Keeps w') (no : w.Keeps w'') :
    w.Keeps (if c then w' else w'') := by
  split
  · exact yes
  · exact no

theorem foldl {α : Type} {f : World → α → World} (each : ∀ (w : World) a, w.Keeps (f w a))
    (w : World) (items : List α) : w.Keeps (items.foldl f w) := by
  induction items generalizing w with
  | nil => exact refl w
  | cons a items ih => exact (each w a).trans (ih (f w a))

end Keeps

theorem keeps_withProcess (w : World) (p : Process) : w.Keeps (w.withProcess p) :=
  .of_captures rfl rfl

theorem keeps_withProcesses (w : World) (processes : List Process) :
    w.Keeps { w with processes } := .of_captures rfl rfl

theorem keeps_withPort (w : World) (number : Nat) (port : Port) :
    w.Keeps (w.withPort number port) := .of_captures rfl rfl

theorem keeps_addPort (w : World) (port : Port) : w.Keeps (w.addPort port).1 :=
  .of_captures rfl rfl

theorem keeps_withPipe (w : World) (number : Nat) (q : Queue) : w.Keeps (w.withPipe number q) :=
  .of_captures rfl rfl

theorem keeps_putTree (w : World) (place : List String) (t : Tree) :
    w.Keeps (w.putTree place t) := .of_captures rfl rfl

theorem keeps_of_map {f : Nat × Capture → Nat × Capture} (now : w'.now = w.now)
    (mapped : ∀ entry ∈ w'.captures, entry ∈ w.captures.map f)
    (each : w.IsRecorded → ∀ entry ∈ w.captures, (f entry).2.IsRecord w.now) : w.Keeps w' where
  now := now
  recorded h entry listed := by
    obtain ⟨before, among, rfl⟩ := List.mem_map.mp (mapped entry listed)
    rw [now]
    exact each h before among

theorem keeps_withCapture {number : Nat} {c : Capture}
    (record : w.IsRecorded → c.IsRecord w.now) : w.Keeps (w.withCapture number c) := by
  refine keeps_of_map rfl (fun _ => id) fun h entry among => ?_
  split
  · exact record h
  · exact h entry among

theorem keeps_tidy (w : World) : w.Keeps w.tidy := by
  refine keeps_of_map rfl (fun entry listed => (List.mem_filter.mp listed).1) ?_
  intro h entry among
  dsimp only
  split
  · exact ⟨(h entry among).ordered, (h entry among).past⟩
  · exact h entry among

/-! ## Ends and signals -/

theorem keeps_note (w : World) (p : Process) (signal : Nat) : w.Keeps (w.note p signal) :=
  keeps_withProcess w _

theorem keeps_strike (w : World) (p : Process) (signal : Nat) : w.Keeps (w.strike p signal) := by
  unfold strike
  split
  · exact .refl w
  · exact keeps_note w p signal
  · exact .ite (.refl w) (.ite (keeps_withProcess w _) (keeps_withProcess w _))

theorem keeps_send (w : World) (id signal : Nat) : w.Keeps (w.send id signal) := by
  unfold send
  split
  · exact .refl w
  · next p _ =>
    refine .ite (.refl w) (.ite ?killed (.ite ?stopped (.ite ?released (.ite ?held ?struck))))
    case killed | stopped | held => exact keeps_withProcess w _
    case struck => exact keeps_strike w p signal
    case released =>
      have released : w.Keeps (if p.stopped then w.release p else w) :=
        .ite (keeps_withProcess w _) (.refl w)
      refine released.trans (.foldl (fun w signal => ?_) _ _)
      split
      · exact .ite (.refl w) (keeps_strike w _ signal)
      · exact .refl w

theorem keeps_finish (w : World) (p : Process) (how : Ended) : w.Keeps (w.finish p how) := by
  unfold finish
  extract_lets others bereft ended gone told
  have left : w.Keeps bereft := keeps_withProcesses w others
  have without : bereft.Keeps gone := by
    exact .ite (keeps_withProcesses bereft _) (keeps_withProcess bereft ended)
  have learnt : gone.Keeps told := by
    unfold told
    split
    · exact .ite (keeps_note gone _ _) (.refl gone)
    · exact .refl gone
  exact ((left.trans without).trans learnt).trans (keeps_tidy told)

/-! ## Files -/

theorem keeps_openTree {place : List String} {access : Access} {t : Tree} {port : Port}
    (opened : w.openTree place access t = .ok (w', port)) : w.Keeps w' := by
  cases t with
  | link => cases opened
  | file content =>
    simp only [openTree] at opened
    split at opened <;> cases opened
    split
    · exact keeps_putTree w place _
    · exact .refl w
  | dir | program =>
    simp only [openTree] at opened
    split at opened <;> cases opened
    exact .refl w
  | device kind =>
    cases kind with
    | terminal => cases opened
    | null | zero | full | descriptor =>
      simp only [openTree] at opened
      split at opened <;> cases opened
      exact .refl w

theorem keeps_reopen {access : Access} {port port' : Port}
    (opened : w.reopen access port = .ok (w', port')) : w.Keeps w' := by
  cases port with
  | device | reader | writer =>
    cases opened
    exact .refl w
  | directory | capture =>
    simp only [reopen] at opened
    split at opened <;> cases opened
    exact .refl w
  | file f =>
    simp only [reopen] at opened
    split at opened
    · exact keeps_openTree opened
    · cases opened

theorem keeps_openPath {p : Process} {path : String} {access : Access} {port : Port}
    (opened : w.openPath p path access = .ok (w', port)) : w.Keeps w' := by
  unfold openPath at opened
  split at opened
  · split at opened <;> cases opened
  · split at opened <;> cases opened
    exact keeps_putTree w _ _
  · split at opened
    · split at opened
      · exact keeps_reopen opened
      · cases opened
    · exact keeps_openTree opened
    · cases opened

theorem keeps_readPort {number limit : Nat} {port : Port} {bytes : List UInt8}
    (read : w.readPort number limit port = .ok (bytes, w')) : w.Keeps w' := by
  cases port with
  | device kind =>
    cases kind with
    | terminal | descriptor => cases read
    | null | zero | full =>
      cases read
      exact .refl w
  | directory | writer | capture => cases read
  | reader pipe =>
    cases read
    exact keeps_withPipe w pipe _
  | file f =>
    simp only [readPort] at read
    split at read <;> cases read
    exact keeps_withPort w number _

theorem keeps_writeFile (w : World) (number : Nat) (f : OpenFile) (bytes : List UInt8) :
    w.Keeps (w.writeFile number f bytes) := by
  unfold writeFile
  split
  · exact (keeps_putTree w _ _).trans (keeps_withPort _ number _)
  · exact .refl w

theorem keeps_writeCapture {number : Nat} {bytes : List UInt8}
    (written : w.writeCapture number bytes = .ok w') : w.Keeps w' := by
  simp only [writeCapture] at written
  split at written
  · cases written
  split at written <;> cases written
  · refine keeps_withCapture fun h => ?_
    exact ⟨(isRecord_capture h number).ordered, (isRecord_capture h number).past⟩
  · exact keeps_withCapture fun h => (isRecord_capture h number).cons bytes

/-! ## Calls -/

theorem keeps_goOn (w : World) (p : Process) (act : Act) (time : Nat) :
    w.Keeps (w.goOn p act time) :=
  keeps_withProcess w _

theorem keeps_goOnUnlessEnded (w : World) (id : Nat) (act : Act) :
    w.Keeps (w.goOnUnlessEnded id act) := by
  unfold goOnUnlessEnded
  split
  · exact .ite (.refl w) (keeps_goOn w _ act _)
  · exact .refl w

theorem keeps_breakPipe (w : World) (p : Process) (next : Except Error Unit → Act) :
    w.Keeps (w.breakPipe p next) :=
  (keeps_send w p.id _).trans (keeps_goOnUnlessEnded _ p.id _)

theorem keeps_writePipe (w : World) (p : Process) (descriptor pipe : Nat) (bytes : List UInt8)
    (next : Except Error Unit → Act) : w.Keeps (w.writePipe p descriptor pipe bytes next) := by
  refine .ite ?unread (.ite ?fits (.ite ?full ?part))
  case unread => exact (keeps_withProcess w _).trans (keeps_breakPipe _ _ next)
  case full => exact keeps_withProcess w _
  case fits | part => exact (keeps_withPipe w pipe _).trans (keeps_goOn _ _ _ _)

theorem keeps_assign (w : World) (p : Process) (descriptor port : Nat) :
    w.Keeps (w.assign p descriptor port).1 := by
  have assigned := keeps_withProcess w (p.withDescriptor descriptor port)
  exact .ite (assigned.trans (keeps_tidy _)) assigned

/-- No call turns back time or disturbs a record. -/
theorem keeps_perform (w : World) (p : Process) (c : Call) (next : c.Reply → Act) :
    w.Keeps (w.perform p c next) := by
  cases c with
  | spend | sleep | inspect | inspectDescriptor | list | whereAmI | whoAmI | dispose | disposition
    | arrivals => exact keeps_goOn w _ _ _
  | openFile path access =>
    simp only [perform]
    split
    · exact keeps_goOn w _ _ _
    · next w' port opened =>
      have added := (keeps_openPath opened).trans (keeps_addPort w' port)
      exact (added.trans (keeps_assign _ _ _ _)).trans (keeps_goOn _ _ _ _)
  | close => exact (keeps_goOn w _ _ _).trans (keeps_tidy _)
  | duplicate | duplicateAbove =>
    simp only [perform]
    split
    · exact keeps_goOn w _ _ _
    · exact (keeps_assign w _ _ _).trans (keeps_goOn _ _ _ _)
  | pipe => exact .of_captures rfl rfl
  | read descriptor limit =>
    simp only [perform]
    split
    · exact keeps_goOn w _ _ _
    · refine .ite (keeps_goOn w _ _ _) ?_
      split
      · exact keeps_goOn w _ _ _
      · next read => exact (keeps_readPort read).trans (keeps_goOn _ _ _ _)
  | write descriptor bytes =>
    simp only [perform]
    split
    · exact keeps_goOn w _ _ _
    · next number _ =>
      refine .ite (keeps_goOn w _ _ _) ?_
      split
      · exact keeps_goOn w _ _ _
      · exact keeps_goOn w _ _ _
      · exact keeps_writePipe w p _ _ _ _
      · split
        · next written => exact (keeps_writeCapture written).trans (keeps_goOn _ _ _ _)
        · exact keeps_breakPipe w p _
      · exact .ite ((keeps_writeFile w number _ _).trans (keeps_goOn _ _ _ _))
          (keeps_goOn w _ _ _)
      · exact keeps_goOn w _ _ _
  | seek =>
    simp only [perform]
    split
    · exact keeps_goOn w _ _ _
    · split
      · exact (keeps_withPort w _ _).trans (keeps_goOn _ _ _ _)
      · exact keeps_goOn w _ _ _
      · exact keeps_goOn w _ _ _
  | changeDirectory =>
    simp only [perform]
    split <;> exact keeps_goOn w _ _ _
  | await =>
    refine .ite (keeps_goOn w _ _ _) ?_
    split
    · exact (keeps_withProcesses w _).trans (keeps_goOn _ _ _ _)
    · exact keeps_goOn w _ _ _
  | signal =>
    simp only [perform]
    split
    · exact keeps_goOn w _ _ _
    · exact (keeps_goOn w _ _ _).trans (.foldl (fun w (q : Process) => keeps_send w q.id _) _ _)

/-! ## Time -/

theorem keeps_step (w : World) (programs : Programs) (p : Process) :
    w.Keeps (w.step programs p) := by
  unfold step
  split
  · exact keeps_finish w p _
  · exact keeps_finish w p _
  · exact keeps_perform w p _ _
  · exact .of_captures rfl rfl
  · unfold become
    split
    · exact keeps_goOn w p _ _
    · exact .ite (keeps_goOn w p _ _) ((keeps_goOn w _ _ _).trans (keeps_tidy _))

structure Leads (w w' : World) : Prop where
  now : w.now ≤ w'.now
  recorded : w.IsRecorded → w'.IsRecorded

namespace Leads

theorem refl (w : World) : w.Leads w := ⟨Nat.le_refl _, id⟩

theorem trans (h : w.Leads w') (h' : w'.Leads w'') : w.Leads w'' :=
  ⟨Nat.le_trans h.now h'.now, h'.recorded ∘ h.recorded⟩

end Leads

theorem Keeps.leads (h : w.Keeps w') : w.Leads w' := ⟨Nat.le_of_eq h.now.symm, h.recorded⟩

theorem leads_withNow {now : Nat} (le : w.now ≤ now) : w.Leads { w with now } :=
  ⟨le, fun h entry listed => (h entry listed).mono le⟩

/-- The process that goes on next does not go on before now. -/
theorem now_le_of_next? {time : Nat} {p : Process} (found : w.next? = some (time, p)) :
    w.now ≤ time := by
  have ahead : ∀ first, w.next? = some first → w.now ≤ first.1 := by
    refine List.foldlRecOn (motive := fun best : Option (Nat × Process) =>
      ∀ first, best = some first → w.now ≤ first.1) _ _ (fun first none => by cases none) ?_
    intro best before p _ first chosen
    split at chosen
    · exact before first chosen
    · dsimp only at chosen
      split at chosen
      · split at chosen
        · cases chosen
          exact Nat.le_max_right ..
        · exact before first chosen
      · cases chosen
        exact Nat.le_max_right ..
  exact ahead (time, p) found

theorem leads_run (programs : Programs) (until? : Option Nat) (done : World → Bool) (fuel : Nat)
    (w : World) : w.Leads (w.run programs until? done fuel) := by
  induction fuel generalizing w with
  | zero => exact .refl w
  | succ fuel ih =>
    rw [run]
    split
    · exact .refl w
    · split
      · exact leads_withNow (Nat.le_max_left ..)
      · next time p found =>
        split
        · exact leads_withNow (Nat.le_max_left ..)
        · have moved := leads_withNow (now_le_of_next? found)
          exact (moved.trans (keeps_step _ programs p).leads).trans (ih _)

end World

end Conformance.System

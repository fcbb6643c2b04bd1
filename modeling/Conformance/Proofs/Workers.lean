import Mathlib.Algebra.BigOperators.Fin
import Mathlib.Data.List.OfFn
import Mathlib.SetTheory.Cardinal.Finite
import Conformance.Proofs.Accounting

/-! # Workers

The fixtures of a suite are run by workers side by side. A worker claims a fixture that nobody has
claimed, and later puts its report at the place of the fixture. The report of the suite is made when
all places are filled. Which worker runs a fixture, and when, is left open; no fairness is assumed.
-/

namespace Conformance

/-- The place for the report of a fixture. -/
inductive Slot (n : Nat) where
  | unclaimed
  | inFlight (worker : Fin n)
  | finished (report : FixtureReport)
deriving DecidableEq, Repr

namespace Slot

def pending {n : Nat} : Slot n → Nat
  | .unclaimed => 2
  | .inFlight _ => 1
  | .finished _ => 0

end Slot

abbrev Pool (n k : Nat) : Type := Fin k → Slot n

inductive Event (n k : Nat) where
  | claim (worker : Fin n) (index : Fin k)
  | finish (worker : Fin n) (index : Fin k)
deriving DecidableEq, Repr

namespace Event

variable {n k : Nat}

def claims (index : Fin k) : Event n k → Bool
  | .claim _ i => i = index
  | .finish .. => false

def finishes (index : Fin k) : Event n k → Bool
  | .claim .. => false
  | .finish _ i => i = index

end Event

namespace Pool

variable {n k : Nat}

def initial : Pool n k := fun _ => .unclaimed

def pending (pool : Pool n k) : Nat := ∑ index, (pool index).pending

/-- All reports are in, and this is their list in the order of the fixtures. -/
def Collects (pool : Pool n k) (reports : List FixtureReport) : Prop :=
  List.ofFn pool = reports.map .finished

theorem pending_update (pool : Pool n k) (index : Fin k) (slot : Slot n)
    (one_less : slot.pending + 1 = (pool index).pending) :
    pending (Function.update pool index slot) + 1 = pending pool := by
  have changed : (fun i => (Function.update pool index slot i).pending) =
      Function.update (fun i => (pool i).pending) index slot.pending := by
    funext i
    by_cases here : i = index
    · subst here
      simp only [Function.update_self]
    · simp only [Function.update_of_ne here]
  have here := Finset.mem_univ index
  have before := Finset.add_sum_erase Finset.univ (fun i => (pool i).pending) here
  rw [pending, changed, Finset.sum_update_of_mem here, pending, ← before,
    Finset.sdiff_singleton_eq_erase]
  omega

theorem pending_initial : (initial : Pool n k).pending = 2 * k := by
  simp [pending, initial, Slot.pending, Nat.mul_comm]

theorem Collects.unique {pool : Pool n k} {reports reports' : List FixtureReport}
    (h : pool.Collects reports) (h' : pool.Collects reports') : reports = reports' :=
  List.map_injective_iff.mpr (fun _ _ => Slot.finished.inj) (h.symm.trans h')

theorem Collects.pending {pool : Pool n k} {reports : List FixtureReport}
    (h : pool.Collects reports) : pool.pending = 0 := by
  refine Finset.sum_eq_zero fun index _ => ?_
  have listed : pool index ∈ reports.map Slot.finished := by
    rw [← h]
    exact List.mem_ofFn.mpr ⟨index, rfl⟩
  obtain ⟨report, -, same⟩ := List.mem_map.mp listed
  rw [← same]
  rfl

end Pool

namespace Suite

variable {World : Type} (s : Suite) (m : Machine World) (codes : ExitCodes) (worlds : World → Prop)
  (results : Suite → String → Except Fault (List Failure)) {n : Nat}

/-- One event. A worker has one fixture at a time. While it runs, others run too, so that it is run
in any world that they may leave. -/
inductive Step : Pool n s.fixtures.length → Event n s.fixtures.length →
    Pool n s.fixtures.length → Prop
  | claim {pool worker index} (free : pool index = .unclaimed)
      (idle : ∀ i, pool i ≠ .inFlight worker) :
      Step pool (.claim worker index) (Function.update pool index (.inFlight worker))
  | finish {pool worker index w w' result} (held : pool index = .inFlight worker)
      (world : worlds w)
      (run : s.runFixture m codes s.fixtures[index] w = .ok (result, w')) :
      Step pool (.finish worker index)
        (Function.update pool index (.finished ⟨s.fixtures[index], .ofResult result⟩))

inductive Execution : List (Event n s.fixtures.length) → Pool n s.fixtures.length → Prop
  | start : Execution [] .initial
  | step {events pool event pool'} : Execution events pool →
      s.Step m codes worlds pool event pool' → Execution (events ++ [event]) pool'

/-- Some schedule of `n` workers runs to completion with this report. -/
def Schedules (n : Nat) (r : SuiteReport) : Prop :=
  ∃ (events : List (Event n s.fixtures.length)) (pool : Pool n s.fixtures.length)
    (reports : List FixtureReport),
    s.Execution m codes worlds events pool ∧ pool.Collects reports ∧
      r = SuiteReport.ofFixtures s.name (s.excluded.map skipped ++ reports)

/-- Some schedules of the suites, one suite after another, run to completion with this report. -/
def SchedulesAll (n : Nat) (suites : List Suite) (r : RunReport) : Prop :=
  List.Forall₂ (fun s r => s.Schedules m codes worlds n r) suites r.suites

/-- The result of a fixture depends only on the fixture: it is the same in all worlds that running
fixtures may leave. -/
def Isolated (suites : List Suite) : Prop :=
  ∀ s ∈ suites, ∀ path ∈ s.fixtures, ∀ w, worlds w →
    ∃ w', s.runFixture m codes path w = .ok (results s path, w') ∧ worlds w'

def reportOf : SuiteReport := s.report (s.fixtures.map (results s))

/-- What the events so far say of a place: it is claimed at most once, by what it holds, and filled
at most once, with the report of its fixture. -/
def Fits (events : List (Event n s.fixtures.length)) (index : Fin s.fixtures.length) :
    Slot n → Prop
  | .unclaimed => events.countP (Event.claims index) = 0 ∧ events.countP (Event.finishes index) = 0
  | .inFlight _ =>
    events.countP (Event.claims index) = 1 ∧ events.countP (Event.finishes index) = 0
  | .finished report =>
    events.countP (Event.claims index) = 1 ∧ events.countP (Event.finishes index) = 1 ∧
      report = ⟨s.fixtures[index], .ofResult (results s s.fixtures[index])⟩

variable {s m codes worlds results} {suites : List Suite}
  {events : List (Event n s.fixtures.length)} {pool pool' : Pool n s.fixtures.length}
  {event : Event n s.fixtures.length}

theorem Isolated.result_eq (isolated : Isolated m codes worlds results suites) (among : s ∈ suites)
    {path : String} (listed : path ∈ s.fixtures) {w w' : World} (world : worlds w)
    {result : Except Fault (List Failure)}
    (run : s.runFixture m codes path w = .ok (result, w')) : result = results s path := by
  obtain ⟨v, run', -⟩ := isolated s among path listed w world
  exact (Prod.mk.inj (Except.ok.inj (run.symm.trans run'))).1

theorem Fits.append_of_ne {index : Fin s.fixtures.length} {slot : Slot n}
    (fits : s.Fits results events index slot) (no_claim : event.claims index = false)
    (no_finish : event.finishes index = false) :
    s.Fits results (events ++ [event]) index slot := by
  cases slot <;>
    simpa only [Fits, List.countP_append, List.countP_singleton, no_claim, no_finish, if_false,
      Bool.false_eq_true, Nat.add_zero] using fits

theorem step_fits (isolated : Isolated m codes worlds results suites) (among : s ∈ suites)
    (fits : ∀ index, s.Fits results events index (pool index))
    (step : s.Step m codes worlds pool event pool') (i : Fin s.fixtures.length) :
    s.Fits results (events ++ [event]) i (pool' i) := by
  cases step with
  | @claim worker index free idle =>
    by_cases here : i = index
    · subst here
      have before := fits i
      rw [free] at before
      rw [Function.update_self]
      simp [Fits, Event.claims, Event.finishes, before.1, before.2]
    · rw [Function.update_of_ne here]
      exact (fits i).append_of_ne (decide_eq_false (Ne.symm here)) rfl
  | @finish worker index w w' result held world run =>
    by_cases here : i = index
    · subst here
      have before := fits i
      rw [held] at before
      obtain rfl := isolated.result_eq among (List.getElem_mem _) world run
      rw [Function.update_self]
      simp [Fits, Event.claims, Event.finishes, before.1, before.2]
    · rw [Function.update_of_ne here]
      exact (fits i).append_of_ne rfl (decide_eq_false (Ne.symm here))

theorem Execution.fits (isolated : Isolated m codes worlds results suites) (among : s ∈ suites)
    (execution : s.Execution m codes worlds events pool) (index : Fin s.fixtures.length) :
    s.Fits results events index (pool index) := by
  induction execution generalizing index with
  | start => exact ⟨rfl, rfl⟩
  | step _ step ih => exact step_fits isolated among ih step index

theorem Step.one_each (step : s.Step m codes worlds pool event pool') {i j : Fin s.fixtures.length}
    {worker : Fin n}
    (one : ∀ i j worker, pool i = .inFlight worker → pool j = .inFlight worker → i = j)
    (first : pool' i = .inFlight worker) (second : pool' j = .inFlight worker) : i = j := by
  cases step with
  | @claim claimer index free idle =>
    -- the claimer was idle, so that a place it holds is the one it just claimed
    have claimed : ∀ k, Function.update pool index (.inFlight claimer) k = .inFlight worker →
        k = index ∧ claimer = worker ∨ k ≠ index ∧ pool k = .inFlight worker := by
      intro k held
      by_cases here : k = index
      · subst here
        rw [Function.update_self] at held
        exact .inl ⟨rfl, Slot.inFlight.inj held⟩
      · rw [Function.update_of_ne here] at held
        exact .inr ⟨here, held⟩
    rcases claimed i first with ⟨rfl, rfl⟩ | ⟨-, before⟩
    · rcases claimed j second with ⟨rfl, -⟩ | ⟨-, before⟩
      · rfl
      · exact absurd before (idle j)
    · rcases claimed j second with ⟨rfl, rfl⟩ | ⟨-, before'⟩
      · exact absurd before (idle i)
      · exact one i j worker before before'
  | @finish finisher index w w' result held world run =>
    have kept : ∀ k, Function.update pool index (.finished ⟨s.fixtures[index], .ofResult result⟩) k =
        .inFlight worker → pool k = .inFlight worker := by
      intro k held
      by_cases here : k = index
      · subst here
        rw [Function.update_self] at held
        cases held
      · rwa [Function.update_of_ne here] at held
    exact one i j worker (kept i first) (kept j second)

theorem Execution.one_each (execution : s.Execution m codes worlds events pool)
    (i j : Fin s.fixtures.length) (worker : Fin n) (first : pool i = .inFlight worker)
    (second : pool j = .inFlight worker) : i = j := by
  induction execution generalizing i j worker with
  | start => cases first
  | step _ step ih => exact step.one_each ih first second

/-- No more fixtures are run side by side than there are workers. -/
theorem Execution.inFlight_le (execution : s.Execution m codes worlds events pool) :
    Nat.card { i // ∃ worker, pool i = .inFlight worker } ≤ n := by
  let holder (i : { i // ∃ worker, pool i = .inFlight worker }) : Fin n := i.2.choose
  have injective : Function.Injective holder := by
    intro i j same
    have first : pool i = .inFlight (holder i) := i.2.choose_spec
    have second : pool j = .inFlight (holder i) := same ▸ j.2.choose_spec
    exact Subtype.ext (execution.one_each i j (holder i) first second)
  have bound := Nat.card_le_card_of_injective holder injective
  rwa [Nat.card_fin] at bound

theorem Step.pending (step : s.Step m codes worlds pool event pool') :
    pool'.pending + 1 = pool.pending := by
  cases step with
  | claim free idle => exact Pool.pending_update pool _ _ (by rw [free]; rfl)
  | finish held world run => exact Pool.pending_update pool _ _ (by rw [held]; rfl)

/-- No schedule goes on for ever. -/
theorem Execution.length_add_pending (execution : s.Execution m codes worlds events pool) :
    events.length + pool.pending = 2 * s.fixtures.length := by
  induction execution with
  | start => rw [Pool.pending_initial, List.length_nil, Nat.zero_add]
  | step _ step ih =>
    have one_less := step.pending
    rw [List.length_append, List.length_singleton]
    omega

/-- While a report is missing, some worker can go on. -/
theorem exists_step (isolated : Isolated m codes worlds results suites) (among : s ∈ suites)
    (positive : 0 < n) {w : World} (world : worlds w) (missing : 0 < pool.pending) :
    ∃ event pool', s.Step m codes worlds pool event pool' := by
  by_cases busy : ∃ index worker, pool index = .inFlight worker
  · obtain ⟨index, worker, held⟩ := busy
    obtain ⟨w', run, -⟩ := isolated s among s.fixtures[index] (List.getElem_mem _) w world
    exact ⟨_, _, .finish held world run⟩
  · have idle : ∀ index worker, pool index ≠ .inFlight worker := by
      intro index worker held
      exact busy ⟨index, worker, held⟩
    obtain ⟨index, -, waits⟩ := Finset.exists_ne_zero_of_sum_ne_zero (Nat.ne_of_gt missing)
    have free : pool index = .unclaimed := by
      cases slot : pool index with
      | unclaimed => rfl
      | inFlight worker => exact absurd slot (idle index worker)
      | finished report => exact absurd (by rw [slot]; rfl) waits
    exact ⟨_, _, .claim free fun i => idle i ⟨0, positive⟩⟩

theorem Execution.filled (isolated : Isolated m codes worlds results suites) (among : s ∈ suites)
    (execution : s.Execution m codes worlds events pool) (complete : pool.pending = 0)
    (index : Fin s.fixtures.length) :
    pool index = .finished ⟨s.fixtures[index], .ofResult (results s s.fixtures[index])⟩ := by
  have none_waits : (pool index).pending = 0 :=
    Finset.sum_eq_zero_iff.mp complete index (Finset.mem_univ index)
  have fits := execution.fits isolated among index
  cases slot : pool index with
  | unclaimed => rw [slot] at none_waits; cases none_waits
  | inFlight worker => rw [slot] at none_waits; cases none_waits
  | finished report =>
    rw [slot] at fits
    rw [fits.2.2]

theorem Execution.collects (isolated : Isolated m codes worlds results suites) (among : s ∈ suites)
    (execution : s.Execution m codes worlds events pool) (complete : pool.pending = 0) :
    pool.Collects (s.fixtures.map fun path => ⟨path, .ofResult (results s path)⟩) := by
  rw [Pool.Collects, List.map_map, ← List.ofFn_getElem_eq_map]
  exact congrArg List.ofFn (funext (execution.filled isolated among complete))

theorem Execution.exists_completion (isolated : Isolated m codes worlds results suites)
    (among : s ∈ suites) (positive : 0 < n) {w : World} (world : worlds w)
    (execution : s.Execution m codes worlds events pool) :
    ∃ more pool' reports, s.Execution m codes worlds (events ++ more) pool' ∧
      pool'.Collects reports := by
  induction missing : pool.pending generalizing events pool with
  | zero =>
    have collects := execution.collects isolated among missing
    exact ⟨[], pool, _, by rwa [List.append_nil], collects⟩
  | succ count ih =>
    -- one more event leaves one event less to wait for
    have waits : 0 < pool.pending := by omega
    obtain ⟨event, pool', step⟩ := exists_step isolated among positive world waits
    have one_less := step.pending
    obtain ⟨more, last, reports, execution', collects⟩ := ih (execution.step step) (by omega)
    refine ⟨event :: more, last, reports, ?_, collects⟩
    rwa [List.append_assoc, List.singleton_append] at execution'

theorem reportOf_eq : s.reportOf results = SuiteReport.ofFixtures s.name
    (s.excluded.map skipped ++ s.fixtures.map fun path => ⟨path, .ofResult (results s path)⟩) := by
  rw [reportOf, report, ← List.map_prod_left_eq_zip, List.map_map]
  rfl

theorem Schedules.eq_report (isolated : Isolated m codes worlds results suites) (among : s ∈ suites)
    {r : SuiteReport} (schedules : s.Schedules m codes worlds n r) :
    r = s.reportOf results := by
  obtain ⟨events, pool, reports, execution, collects, rfl⟩ := schedules
  have all := execution.collects isolated among collects.pending
  rw [collects.unique all, reportOf_eq]

theorem schedules_iff (isolated : Isolated m codes worlds results suites) (among : s ∈ suites)
    (positive : 0 < n) {w : World} (world : worlds w) {r : SuiteReport} :
    s.Schedules m codes worlds n r ↔ r = s.reportOf results := by
  constructor
  · exact Schedules.eq_report isolated among
  · rintro rfl
    obtain ⟨events, pool, reports, execution, collects⟩ :=
      Execution.start.exists_completion isolated among positive world
    have schedules : s.Schedules m codes worlds n _ :=
      ⟨[] ++ events, pool, reports, execution, collects, rfl⟩
    rwa [← schedules.eq_report isolated among]

theorem schedulesAll_iff (isolated : Isolated m codes worlds results suites) (positive : 0 < n)
    {w : World} (world : worlds w) {r : RunReport} :
    SchedulesAll m codes worlds n suites r ↔ r = ⟨suites.map fun s => s.reportOf results⟩ := by
  rcases r with ⟨reports⟩
  rw [RunReport.mk.injEq]
  change List.Forall₂ _ suites reports ↔ _
  induction suites generalizing reports with
  | nil => exact List.forall₂_nil_left_iff
  | cons s suites ih =>
    have first (r : SuiteReport) : s.Schedules m codes worlds n r ↔ r = s.reportOf results :=
      schedules_iff isolated List.mem_cons_self positive world
    have rest := ih fun s' among => isolated s' (List.mem_cons_of_mem s among)
    rw [List.forall₂_cons_left_iff]
    constructor
    · rintro ⟨r, others, schedules, scheduled, rfl⟩
      rw [List.map_cons, (first r).mp schedules, (rest others).mp scheduled]
    · rintro rfl
      exact ⟨_, _, (first _).mpr rfl, (rest _).mpr rfl, rfl⟩

theorem Isolated.run (isolated : Isolated m codes worlds results suites) (among : s ∈ suites)
    {w : World} (world : worlds w) :
    ∃ w', s.run m codes w = .ok (s.reportOf results, w') ∧ worlds w' := by
  obtain ⟨w', ran, kept⟩ := Work.mapM_eq_map (isolated s among) world
  exact ⟨w', run_eq_ok_iff.mpr ⟨_, ran, rfl⟩, kept⟩

theorem Isolated.runAll (isolated : Isolated m codes worlds results suites) {w : World}
    (world : worlds w) :
    ∃ w', runAll suites m codes w =
      .ok (⟨suites.map fun s => s.reportOf results⟩, w') := by
  obtain ⟨w', ran, -⟩ := Work.mapM_eq_map (fun s among v => isolated.run among) world
  exact ⟨w', runAll_eq_ok_iff_mapM.mpr ⟨_, ran, rfl⟩⟩

theorem Execution.once (isolated : Isolated m codes worlds results suites) (among : s ∈ suites)
    (execution : s.Execution m codes worlds events pool) {reports : List FixtureReport}
    (collects : pool.Collects reports) (index : Fin s.fixtures.length) :
    events.countP (Event.claims index) = 1 ∧ events.countP (Event.finishes index) = 1 := by
  have fits := execution.fits isolated among index
  rw [execution.filled isolated among collects.pending index] at fits
  exact ⟨fits.1, fits.2.1⟩

/-- However many workers run the fixtures and in whatever order they finish, the report is the one
of running them one after another; every schedule can be completed, and a complete one claims and
finishes each fixture once. So the program answers a command line alike for all numbers of jobs. -/
theorem schedule_irrelevant {w : World} (isolated : Isolated m codes worlds results suites)
    (world : worlds w) :
    ∃ sequential w', runAll suites m codes w = .ok (sequential, w') ∧ ∀ n, 0 < n →
      (∀ r, SchedulesAll m codes worlds n suites r ↔ r = sequential) ∧
      (∀ s ∈ suites, ∀ (events : List (Event n s.fixtures.length)) pool,
        s.Execution m codes worlds events pool →
          (∃ more pool' reports, s.Execution m codes worlds (events ++ more) pool' ∧
            pool'.Collects reports) ∧
          ∀ reports, pool.Collects reports → events.length = 2 * s.fixtures.length ∧
            ∀ index, events.countP (Event.claims index) = 1 ∧
              events.countP (Event.finishes index) = 1) ∧
      ∀ r, SchedulesAll m codes worlds n suites r →
        ∀ words verbosity source jobs timeout format c,
          CommandLine.read words = .ok ⟨verbosity, .run source jobs timeout format⟩ →
          Program.Selects (m.files w) source timeout c suites → c.exitCodes = codes →
          Program.respond m words w =
            .ok ({ exitCode := Program.exitCode r,
                   stdout := Program.reportText format (verbosity > 0) r }, w') := by
  obtain ⟨w', ran⟩ := isolated.runAll world
  refine ⟨_, w', ran, fun n positive => ?_⟩
  refine ⟨fun r => schedulesAll_iff isolated positive world, ?_, ?_⟩
  · intro s among events pool execution
    refine ⟨execution.exists_completion isolated among positive world, fun reports collects => ?_⟩
    have length := execution.length_add_pending
    rw [collects.pending, Nat.add_zero] at length
    exact ⟨length, execution.once isolated among collects⟩
  · rintro r schedules words verbosity source jobs timeout format c read selects rfl
    obtain rfl := (schedulesAll_iff isolated positive world).mp schedules
    have answered : Program.run m (verbosity > 0) source timeout format w = _ :=
      Program.run_eq_ok_iff.mpr ⟨c, suites, _, selects, ran, rfl⟩
    simp only [Program.respond, read, answered]
    rfl

/-! ## A small run -/

/-- The one fixture, and one that is not there. -/
def ofTwo : Suite := { ofOne with fixtures := ["one.lox", "two.lox"] }

def faultOf (path : String) : Except Fault (List Failure) :=
  if path = "one.lox" then .error (.notStarted "lox") else .error (.unreadableFixture path)

theorem isolated_ofTwo {s : Suite} (lox : s.interpreter.executable = "lox")
    (two : ∀ path ∈ s.fixtures, path = "one.lox" ∨ path = "two.lox") :
    Isolated (.steady none) {} (fun _ => True) (fun _ => faultOf) [s] := by
  intro s' among path listed w _
  obtain rfl := List.mem_singleton.mp among
  refine ⟨w, ?_, trivial⟩
  rcases two path listed with rfl | rfl
  · change _ = Except.ok (Except.error (Fault.notStarted "lox"), w)
    rw [← lox]
    exact runFixture_of_not_starts (Fixture.load_oneEmpty _) nofun
  · exact runFixture_of_unread
      (Fixture.load_oneEmpty_of_ne (by decide) (by decide) (by decide) _)

/-- Two workers that claim the two fixtures in turn and finish them the other way round. -/
def crossing : List (Event 2 ofTwo.fixtures.length) :=
  [.claim 0 ⟨0, by decide⟩, .claim 1 ⟨1, by decide⟩, .finish 1 ⟨1, by decide⟩,
    .finish 0 ⟨0, by decide⟩]

theorem exists_crossing :
    ∃ pool, ofTwo.Execution (.steady none) {} (fun _ => True) crossing pool := by
  have isolated := isolated_ofTwo (s := ofTwo) rfl (by decide)
  have runs := fun index : Fin ofTwo.fixtures.length =>
    isolated ofTwo List.mem_cons_self ofTwo.fixtures[index] (List.getElem_mem _) () trivial
  obtain ⟨_, first, -⟩ := runs ⟨0, by decide⟩
  obtain ⟨_, second, -⟩ := runs ⟨1, by decide⟩
  refine ⟨_, (((Execution.start.step (.claim rfl nofun)).step (.claim rfl ?_)).step
    (.finish rfl trivial second)).step (.finish rfl trivial first)⟩
  decide

def crossingReports : List FixtureReport :=
  [⟨"one.lox", .ofResult (.error (.notStarted "lox"))⟩,
    ⟨"two.lox", .ofResult (.error (.unreadableFixture "two.lox"))⟩]

/-- The crossing schedule has the report of running the two fixtures in turn, with the fault of each
at its own place, and the program gives the answer of any schedule of the one. -/
theorem schedule_irrelevant_crossing :
    (∃ pool, ofTwo.Execution (.steady none) {} (fun _ => True) crossing pool ∧
      pool.Collects crossingReports ∧
      runAll [.ofTwo] (.steady none) {} () =
        .ok (⟨[SuiteReport.ofFixtures ofTwo.name crossingReports]⟩, ())) ∧
      ∃ r, SchedulesAll (.steady none) {} (fun _ => True) 2 [.ofOne] r ∧
        Program.respond (.steady none)
            ["run", "--interpreter", "lox", "--root", "one.lox", "--jobs", "2"] () =
          .ok ({ exitCode := Program.exitCode r, stdout := r.text false }, ()) := by
  have two := isolated_ofTwo (s := ofTwo) rfl (by decide)
  have one := isolated_ofTwo (s := ofOne) rfl (by decide)
  constructor
  · obtain ⟨sequential, w', ran, any⟩ := schedule_irrelevant two (w := ()) trivial
    obtain ⟨same, schedules, -⟩ := any 2 (by decide)
    obtain ⟨pool, execution⟩ := exists_crossing
    have length := execution.length_add_pending
    have complete : pool.pending = 0 := by
      change 4 + pool.pending = 4 at length
      omega
    have collects : pool.Collects crossingReports :=
      execution.collects two List.mem_cons_self complete
    have report := (same _).mp (.cons ⟨_, pool, _, execution, collects, rfl⟩ .nil)
    exact ⟨pool, execution, collects, report ▸ ran⟩
  · obtain ⟨sequential, w', ran, any⟩ := schedule_irrelevant one (w := ()) trivial
    obtain ⟨same, -, answers⟩ := any 2 (by decide)
    have schedules := (same sequential).mpr rfl
    have read :
        CommandLine.read ["run", "--interpreter", "lox", "--root", "one.lox", "--jobs", "2"] =
          .ok ⟨0, .run .ofOne (some 2) none .text⟩ := by decide +kernel
    exact ⟨sequential, schedules,
      answers sequential schedules _ _ _ _ _ _ _ read Program.selects_ofOne rfl⟩

end Suite

end Conformance

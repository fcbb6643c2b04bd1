import Mathlib.Data.List.Forall2
import Mathlib.Data.List.Induction
import Conformance.Program
import Conformance.Proofs.Outcome
import Conformance.Proofs.Work

/-! # Accounting

A report accounts for every fixture: it has an entry for each, in order, and its counts are counts
of these entries. A run exits with zero exactly if all fixtures that were run passed.
-/

namespace Conformance

/-! ## Counts -/

namespace Tally

variable {t u : Tally} {fixtures others : List FixtureReport}

def total (t : Tally) : Nat := t.passed + t.failed + t.errored + t.skipped

/-- The numbers are how many of the fixtures had each outcome. -/
structure Counts (t : Tally) (fixtures : List FixtureReport) : Prop where
  passed : t.passed = fixtures.countP fun f => f.outcome.isPassed
  failed : t.failed = fixtures.countP fun f => f.outcome.isFailed
  errored : t.errored = fixtures.countP fun f => f.outcome.isError
  skipped : t.skipped = fixtures.countP fun f => f.outcome.isSkipped

theorem counts_nil : ({} : Tally).Counts [] := ⟨rfl, rfl, rfl, rfl⟩

theorem Counts.append (h : t.Counts fixtures) (k : u.Counts others) :
    (t.add u).Counts (fixtures ++ others) := by
  constructor
  · rw [List.countP_append, ← h.passed, ← k.passed]; rfl
  · rw [List.countP_append, ← h.failed, ← k.failed]; rfl
  · rw [List.countP_append, ← h.errored, ← k.errored]; rfl
  · rw [List.countP_append, ← h.skipped, ← k.skipped]; rfl

theorem Counts.snoc (h : t.Counts fixtures) (f : FixtureReport) :
    (t.count f.outcome).Counts (fixtures ++ [f]) := by
  have one : (t.count f.outcome) = t.add (({} : Tally).count f.outcome) := by
    cases f.outcome <;> rfl
  rw [one]
  refine h.append ?_
  rcases f with ⟨path, outcome⟩
  cases outcome <;> exact ⟨rfl, rfl, rfl, rfl⟩

theorem ofFixtures_append_singleton (fixtures : List FixtureReport) (f : FixtureReport) :
    ofFixtures (fixtures ++ [f]) = (ofFixtures fixtures).count f.outcome :=
  List.foldl_concat ..

theorem counts_ofFixtures (fixtures : List FixtureReport) :
    (ofFixtures fixtures).Counts fixtures := by
  induction fixtures using List.reverseRecOn with
  | nil => exact counts_nil
  | append_singleton fixtures f ih =>
    rw [ofFixtures_append_singleton]
    exact ih.snoc f

theorem total_count (t : Tally) (outcome : Outcome) : (t.count outcome).total = t.total + 1 := by
  cases outcome <;> simp only [total, count] <;> omega

theorem total_ofFixtures (fixtures : List FixtureReport) :
    (ofFixtures fixtures).total = fixtures.length := by
  induction fixtures using List.reverseRecOn with
  | nil => rfl
  | append_singleton fixtures f ih =>
    rw [ofFixtures_append_singleton, total_count, ih, List.length_append, List.length_singleton]

end Tally

theorem SuiteReport.isSuccessful_iff {r : SuiteReport} (h : r.tally.Counts r.fixtures) :
    r.isSuccessful = true ↔
      ∀ f ∈ r.fixtures, ¬ f.outcome.isFailed = true ∧ ¬ f.outcome.isError = true := by
  rw [isSuccessful, Bool.and_eq_true, decide_eq_true_iff, decide_eq_true_iff, h.failed, h.errored,
    List.countP_eq_zero, List.countP_eq_zero]
  exact forall₂_and.symm

theorem RunReport.counts_totals {suites : List SuiteReport}
    (each : ∀ r ∈ suites, r.tally.Counts r.fixtures) :
    (RunReport.mk suites).totals.Counts (suites.flatMap SuiteReport.fixtures) := by
  induction suites using List.reverseRecOn with
  | nil => exact Tally.counts_nil
  | append_singleton suites r ih =>
    have last : (RunReport.mk (suites ++ [r])).totals = (RunReport.mk suites).totals.add r.tally :=
      List.foldl_concat ..
    rw [last, List.flatMap_append, List.flatMap_singleton]
    have before := ih fun r' among => each r' (List.mem_append_left [r] among)
    exact before.append (each r (List.mem_append_right suites List.mem_cons_self))

theorem Outcome.ofResult_eq_passed_iff (result : Except Fault (List Failure)) :
    ofResult result = .passed ↔
      ¬ (ofResult result).isFailed = true ∧ ¬ (ofResult result).isError = true := by
  rcases result with fault | _ | ⟨failure, failures⟩ <;>
    simp [ofResult, ofFault, isFailed, isError]

/-! ## Assignments -/

/-- A suite with the results that its fixtures came to, in order. -/
structure Assignment where
  suite : Suite
  results : List (Except Fault (List Failure))
  length_eq : results.length = suite.fixtures.length

namespace Assignment

def outcomes (a : Assignment) : List Outcome := a.results.map Outcome.ofResult

def report (a : Assignment) : SuiteReport := a.suite.report a.results

/-- All fixtures that are not excluded passed. -/
def AllPassed (as : List Assignment) : Prop :=
  ∀ a ∈ as, ∀ outcome ∈ a.outcomes, outcome = .passed

/-- The fixtures of the suites came to these results, run one after another. -/
def Came {World : Type} (m : Machine World) (codes : ExitCodes) (as : List Assignment)
    (w w' : World) : Prop :=
  (as.map suite).mapM (fun s => s.fixtures.mapM (s.runFixture m codes)) w =
    .ok (as.map results, w')

end Assignment

def RunReport.ofAssignments (as : List Assignment) : RunReport := ⟨as.map Assignment.report⟩

/-- A report of a suite that leaves out no fixture, excluded ones first, and adds none. -/
structure SuiteReport.Accounts (r : SuiteReport) (a : Assignment) : Prop where
  name : r.name = a.suite.name
  paths : r.fixtures.map FixtureReport.path = a.suite.excluded ++ a.suite.fixtures
  outcomes : r.fixtures.map FixtureReport.outcome =
    a.suite.excluded.map (fun _ => .skipped "excluded") ++ a.outcomes
  counts : r.tally.Counts r.fixtures
  total : r.tally.total = r.fixtures.length

/-- A report of a run with one report for each suite, in order, and the exit status that it has. -/
structure RunReport.Accounts (r : RunReport) (as : List Assignment) : Prop where
  suites : List.Forall₂ SuiteReport.Accounts r.suites as
  totals : r.totals.Counts (r.suites.flatMap SuiteReport.fixtures)
  success : Program.exitCode r = 0 ↔ Assignment.AllPassed as
  failure : Program.exitCode r = 1 ↔ ¬ Assignment.AllPassed as

namespace Assignment

variable (a : Assignment)

theorem fixtures_report : a.report.fixtures =
    a.suite.excluded.map Suite.skipped ++
      (a.suite.fixtures.zip a.results).map fun (path, result) => ⟨path, Outcome.ofResult result⟩ :=
  rfl

theorem report_accounts : a.report.Accounts a where
  name := rfl
  paths := by
    have skipped : FixtureReport.path ∘ Suite.skipped = id := rfl
    have ran : (a.suite.fixtures.zip a.results).map Prod.fst = a.suite.fixtures :=
      List.map_fst_zip (Nat.le_of_eq a.length_eq.symm)
    rw [fixtures_report, List.map_append, List.map_map, List.map_map, skipped, List.map_id]
    exact congrArg _ ran
  outcomes := by
    have ran : (a.suite.fixtures.zip a.results).map Prod.snd = a.results :=
      List.map_snd_zip (Nat.le_of_eq a.length_eq)
    have came :
        (a.suite.fixtures.zip a.results).map (Outcome.ofResult ∘ Prod.snd) = a.outcomes := by
      rw [← List.map_map, ran, outcomes]
    rw [fixtures_report, List.map_append, List.map_map, List.map_map]
    exact congrArg _ came
  counts := Tally.counts_ofFixtures _
  total := Tally.total_ofFixtures _

theorem isSuccessful_report :
    a.report.isSuccessful = true ↔ ∀ outcome ∈ a.outcomes, outcome = .passed := by
  have accounts := a.report_accounts
  rw [SuiteReport.isSuccessful_iff accounts.counts]
  have moved : (∀ f ∈ a.report.fixtures, ¬ f.outcome.isFailed = true ∧ ¬ f.outcome.isError = true) ↔
      ∀ outcome ∈ a.report.fixtures.map FixtureReport.outcome,
        ¬ outcome.isFailed = true ∧ ¬ outcome.isError = true := by
    rw [List.forall_mem_map]
  rw [moved, accounts.outcomes, List.forall_mem_append, List.forall_mem_map]
  have excluded : ∀ path ∈ a.suite.excluded, ¬ (Outcome.skipped "excluded").isFailed = true ∧
      ¬ (Outcome.skipped "excluded").isError = true := fun _ _ => ⟨nofun, nofun⟩
  -- excluded fixtures are never in the way, so that only those that ran count
  rw [and_iff_right excluded, outcomes, List.forall_mem_map, List.forall_mem_map]
  exact forall₂_congr fun result _ => (Outcome.ofResult_eq_passed_iff result).symm

end Assignment

theorem RunReport.isSuccessful_ofAssignments (as : List Assignment) :
    (ofAssignments as).isSuccessful = true ↔ Assignment.AllPassed as := by
  rw [isSuccessful, ofAssignments, List.all_eq_true, List.forall_mem_map]
  exact forall₂_congr fun a _ => a.isSuccessful_report

theorem Program.exitCode_cases (r : RunReport) :
    (Program.exitCode r = 0 ↔ r.isSuccessful = true) ∧
      (Program.exitCode r = 1 ↔ ¬ r.isSuccessful = true) := by
  cases success : r.isSuccessful <;> simp [Program.exitCode, success]

theorem RunReport.ofAssignments_accounts (as : List Assignment) :
    (ofAssignments as).Accounts as where
  suites := List.forall₂_map_left_iff.mpr (List.forall₂_same.mpr fun a _ => a.report_accounts)
  totals := counts_totals (List.forall_mem_map.mpr fun a _ => a.report_accounts.counts)
  success := (Program.exitCode_cases _).1.trans (isSuccessful_ofAssignments as)
  failure := (Program.exitCode_cases _).2.trans (not_congr (isSuccessful_ofAssignments as))

/-! ## Runs -/

namespace Suite

variable {World : Type} {m : Machine World} {codes : ExitCodes} {s : Suite} {suites : List Suite}
  {w w' : World}

theorem run_eq_ok_iff {r : SuiteReport} : s.run m codes w = .ok (r, w') ↔
    ∃ results, s.fixtures.mapM (s.runFixture m codes) w = .ok (results, w') ∧
      r = s.report results :=
  Work.return_eq_ok_iff

theorem mapM_run_eq_ok_iff {reports : List SuiteReport} :
    suites.mapM (fun s => s.run m codes) w = .ok (reports, w') ↔
      ∃ as, as.map Assignment.suite = suites ∧ Assignment.Came m codes as w w' ∧
        reports = as.map Assignment.report := by
  induction suites generalizing reports w with
  | nil =>
    rw [Work.mapM_nil_eq_ok_iff]
    constructor
    · rintro ⟨rfl, rfl⟩
      exact ⟨[], rfl, rfl, rfl⟩
    · rintro ⟨as, none_left, came, rfl⟩
      obtain rfl := List.map_eq_nil_iff.mp none_left
      exact ⟨rfl, (Work.mapM_nil_eq_ok_iff.mp came).2⟩
  | cons s suites ih =>
    rw [Work.mapM_cons_eq_ok_iff]
    constructor
    · rintro ⟨r, v, rest, first, others, rfl⟩
      obtain ⟨results, ran, rfl⟩ := run_eq_ok_iff.mp first
      obtain ⟨as, rfl, came, rfl⟩ := ih.mp others
      refine ⟨⟨s, results, Work.length_of_mapM ran⟩ :: as, rfl, ?_, rfl⟩
      exact Work.mapM_cons_eq_ok_iff.mpr ⟨_, v, _, ran, came, rfl⟩
    · rintro ⟨as, split, came, rfl⟩
      obtain ⟨a, as, rfl, rfl, rfl⟩ := List.map_eq_cons_iff.mp split
      obtain ⟨results, v, rest, ran, others, same⟩ := Work.mapM_cons_eq_ok_iff.mp came
      obtain ⟨rfl, rfl⟩ := List.cons.inj same
      exact ⟨_, v, _, run_eq_ok_iff.mpr ⟨_, ran, rfl⟩, ih.mpr ⟨as, rfl, others, rfl⟩, rfl⟩

theorem runAll_eq_ok_iff_mapM {r : RunReport} : runAll suites m codes w = .ok (r, w') ↔
    ∃ reports, suites.mapM (fun s => s.run m codes) w = .ok (reports, w') ∧ r = ⟨reports⟩ :=
  Work.return_eq_ok_iff

theorem runAll_eq_ok_iff {r : RunReport} : runAll suites m codes w = .ok (r, w') ↔
    ∃ as, as.map Assignment.suite = suites ∧ Assignment.Came m codes as w w' ∧
      r = .ofAssignments as := by
  rw [runAll_eq_ok_iff_mapM]
  constructor
  · rintro ⟨reports, ran, rfl⟩
    obtain ⟨as, suites_eq, came, rfl⟩ := mapM_run_eq_ok_iff.mp ran
    exact ⟨as, suites_eq, came, rfl⟩
  · rintro ⟨as, suites_eq, came, rfl⟩
    exact ⟨_, mapM_run_eq_ok_iff.mpr ⟨as, suites_eq, came, rfl⟩, rfl⟩

/-- Reading from the interpreters of the suites comes to an end, in whatever world they start. -/
def AreFinite (suites : List Suite) (m : Machine World) : Prop :=
  ∀ s ∈ suites, ∀ path ∈ s.fixtures, ∀ w b,
    s.Starts m path w b → b.IsFinite m.start s.interpreter.timeout

theorem exists_runAll (finite : AreFinite suites m) (codes : ExitCodes) (w : World) :
    ∃ r w', runAll suites m codes w = .ok (r, w') := by
  have fixture_runs : ∀ s ∈ suites, ∀ path ∈ s.fixtures, ∀ v,
      ∃ result v', s.runFixture m codes path v = .ok (result, v') :=
    fun s among path listed _ => exists_runFixture (finite s among path listed _)
  have suite_runs : ∀ s ∈ suites, ∀ v, ∃ r v', s.run m codes v = .ok (r, v') := by
    intro s among v
    obtain ⟨results, v', ran⟩ := Work.exists_mapM (fixture_runs s among) v
    exact ⟨s.report results, v', run_eq_ok_iff.mpr ⟨results, ran, rfl⟩⟩
  obtain ⟨reports, w', ran⟩ := Work.exists_mapM suite_runs w
  exact ⟨_, w', runAll_eq_ok_iff_mapM.mpr ⟨reports, ran, rfl⟩⟩

end Suite

namespace Program

variable {World : Type}

/-- A source selects suites of a configuration, with the time limit of the command line if it has
one. -/
def Selects (f : Files) (source : SuiteSource) (timeout : Option Nat) (c : Config)
    (suites : List Suite) : Prop :=
  ∃ found, Config.resolve f source = .ok found ∧
    c = { found with timeoutSecs := timeout.getD found.timeoutSecs } ∧
    Suite.select c f source.suites = .ok suites

variable {m : Machine World} {verbose : Bool} {source : SuiteSource} {timeout : Option Nat}
  {format : ReportFormat} {w w' : World} {c : Config} {suites : List Suite}

theorem run_of_selects (selects : Selects (m.files w) source timeout c suites) :
    run m verbose source timeout format w =
      (Suite.runAll suites m c.exitCodes w).map fun (r, w) =>
        (.ok { exitCode := exitCode r, stdout := reportText format verbose r }, w) := by
  obtain ⟨found, resolved, rfl, selected⟩ := selects
  simp only [run, resolved, selected, Bind.bind, Except.bind, Pure.pure, Except.pure]

theorem run_of_not_selects (nothing : ∀ c suites, ¬ Selects (m.files w) source timeout c suites) :
    ∃ fault, run m verbose source timeout format w = .ok (.error fault, w) := by
  cases resolved : Config.resolve (m.files w) source with
  | error fault =>
    rw [run, resolved]
    exact ⟨fault, rfl⟩
  | ok found =>
    cases selected : Suite.select { found with timeoutSecs := timeout.getD found.timeoutSecs }
        (m.files w) source.suites with
    | error fault =>
      refine ⟨fault, ?_⟩
      simp only [run, resolved, selected, Bind.bind, Except.bind]
    | ok suites => exact absurd ⟨found, resolved, rfl, selected⟩ (nothing _ suites)

theorem run_eq_ok_iff {response : Response} :
    run m verbose source timeout format w = .ok (.ok response, w') ↔
      ∃ c suites r, Selects (m.files w) source timeout c suites ∧
        Suite.runAll suites m c.exitCodes w = .ok (r, w') ∧
        response = { exitCode := exitCode r, stdout := reportText format verbose r } := by
  constructor
  · intro answered
    by_cases nothing : ∀ c suites, ¬ Selects (m.files w) source timeout c suites
    · obtain ⟨fault, failed⟩ :
          ∃ fault, run m verbose source timeout format w = .ok (.error fault, w) :=
        run_of_not_selects nothing
      rw [failed] at answered
      cases answered
    · push Not at nothing
      obtain ⟨c, suites, selects⟩ := nothing
      rw [run_of_selects selects] at answered
      obtain ⟨⟨r, v⟩, ran, same⟩ := map_eq_ok_iff.mp answered
      obtain ⟨answer, rfl⟩ := Prod.mk.inj same
      exact ⟨c, suites, r, selects, ran, (Except.ok.inj answer).symm⟩
  · rintro ⟨c, suites, r, selects, ran, rfl⟩
    rw [run_of_selects selects, ran]
    rfl

/-- Every assignment of results has a report that accounts for it. Suites that are run have the
report of the results that their fixtures came to, and they have one as soon as reading from the
interpreters comes to an end. The program exits with zero if every fixture that is not excluded
passed and with one if not, whatever the format and however verbose. -/
theorem run_accounts (m : Machine World) :
    (∀ as, (RunReport.ofAssignments as).Accounts as) ∧
      (∀ suites codes w r w', Suite.runAll suites m codes w = .ok (r, w') ↔
        ∃ as, as.map Assignment.suite = suites ∧ Assignment.Came m codes as w w' ∧
          r = .ofAssignments as) ∧
      (∀ suites codes w, Suite.AreFinite suites m →
        ∃ r w', Suite.runAll suites m codes w = .ok (r, w')) ∧
      ∀ verbose source timeout format w response w',
        run m verbose source timeout format w = .ok (.ok response, w') →
          ∃ c as, Selects (m.files w) source timeout c (as.map Assignment.suite) ∧
            Assignment.Came m c.exitCodes as w w' ∧
            response.stdout = reportText format verbose (.ofAssignments as) ∧
            (response.exitCode = 0 ↔ Assignment.AllPassed as) ∧
            (response.exitCode = 1 ↔ ¬ Assignment.AllPassed as) := by
  refine ⟨RunReport.ofAssignments_accounts, fun _ _ _ _ _ => Suite.runAll_eq_ok_iff,
    fun _ codes w finite => Suite.exists_runAll finite codes w, ?_⟩
  intro verbose source timeout format w response w' answered
  obtain ⟨c, suites, r, selects, ran, rfl⟩ := run_eq_ok_iff.mp answered
  obtain ⟨as, rfl, came, rfl⟩ := Suite.runAll_eq_ok_iff.mp ran
  have accounts := RunReport.ofAssignments_accounts as
  exact ⟨c, as, selects, came, rfl, accounts.success, accounts.failure⟩

end Program

/-! ## A small run -/

def SuiteSource.ofOne : SuiteSource := { interpreter := some "lox", root := some "one.lox" }

def Config.ofOne : Config :=
  { suites := [{ name := "default", executable := "lox", root := "one.lox" }] }

def Suite.ofOne : Suite where
  name := "default"
  interpreter := { executable := "lox", timeout := some ⟨10, 0⟩ }
  fixtures := ["one.lox"]

theorem Config.resolve_ofOne : Config.resolve .oneEmpty .ofOne = .ok .ofOne := by
  have nothing : Files.oneEmpty.find defaultFile = .ok ⟨[defaultFile], false⟩ :=
    Files.find_oneEmpty_of_ne (by decide) (by decide) (by decide)
  have missing : Files.oneEmpty.isFile defaultFile = false := by
    simp [Files.isFile, Files.at?, Files.locate?, nothing]
  simp [resolve, SuiteSource.ofOne, discover, missing, override, suiteOfOptions, validate, problem,
    suitesProblem, suiteProblem, Bind.bind, Except.bind, ofOne]

theorem Discovery.discover_ofOne :
    discover (Suite.rules .ofOne) .oneEmpty "one.lox" = .ok ⟨["one.lox"], []⟩ := by
  have itself : (Files.oneEmpty.locateSelf? "one.lox").bind Files.oneEmpty.top.get? =
      some (.file []) := by
    simp only [Files.locateSelf?, Files.find_oneEmpty, Option.bind_some, Files.get?_oneEmpty]
  have below : filesBelow .oneEmpty "one.lox" = some ["one.lox"] := by
    simp [filesBelow, Files.at?_oneEmpty, itself, Tree.files]
  have fixture : (Suite.rules .ofOne).isFixture "one.lox" = true := by decide
  have kept : (Suite.rules .ofOne).isExcluded "one.lox" = false := by decide
  simp [discover, below, Rules.select, fixture, kept, Path.sort]

def Config.ofOneWithin (timeoutSecs : Nat) : Config := { Config.ofOne with timeoutSecs }

def Suite.ofOneWithin (timeoutSecs : Nat) : Suite where
  name := "default"
  interpreter := { executable := "lox", timeout := (Config.ofOneWithin timeoutSecs).timeout }
  fixtures := ["one.lox"]

theorem Program.selects_ofOneWithin (timeout : Option Nat) :
    Selects .oneEmpty .ofOne timeout (.ofOneWithin (timeout.getD 10))
      [.ofOneWithin (timeout.getD 10)] := by
  generalize limited : timeout.getD 10 = timeoutSecs
  have suites : (Config.ofOneWithin timeoutSecs).suites =
      [Config.suiteOfOptions .ofOne "lox"] := rfl
  have suite : Suite.ofConfig (.ofOneWithin timeoutSecs) .oneEmpty
      (Config.suiteOfOptions .ofOne "lox") = .ok [.ofOneWithin timeoutSecs] := by
    change (Suite.ofRoot (.ofOneWithin timeoutSecs) .oneEmpty
      (Config.suiteOfOptions .ofOne "lox") "default" "one.lox" >>= fun s => .ok [s]) = _
    have found : Discovery.discover (Suite.rules (.ofOneWithin timeoutSecs)) .oneEmpty "one.lox" =
        .ok ⟨["one.lox"], []⟩ := Discovery.discover_ofOne
    rw [Suite.ofRoot, found]
    rfl
  have all : Suite.allOf (.ofOneWithin timeoutSecs) .oneEmpty =
      .ok [.ofOneWithin timeoutSecs] := by
    rw [Suite.allOf, suites, List.mapM_cons, List.mapM_nil, suite]
    rfl
  refine ⟨.ofOne, Config.resolve_ofOne, limited ▸ rfl, ?_⟩
  rw [Suite.select, if_neg (by rw [suites]; nofun), all]
  rfl

theorem Program.selects_ofOne : Selects .oneEmpty .ofOne none .ofOne [.ofOne] :=
  selects_ofOneWithin none

/-- The one fixture, whose interpreter cannot be started. -/
def Assignment.unstarted : Assignment := ⟨.ofOne, [.error (.notStarted "lox")], rfl⟩

theorem Assignment.came_unstarted : Came (.steady none) {} [.unstarted] () () := by
  have fixture : Suite.ofOne.runFixture (.steady none) {} "one.lox" () =
      .ok (.error (.notStarted "lox"), ()) :=
    Suite.runFixture_of_not_starts (Fixture.load_oneEmpty _) nofun
  have none_left : ([] : List String).mapM (Suite.ofOne.runFixture (.steady none) {}) () =
      .ok ([], ()) := Work.mapM_nil_eq_ok_iff.mpr ⟨rfl, rfl⟩
  have suite := Work.mapM_cons_eq_ok_iff.mpr ⟨_, (), [], fixture, none_left, rfl⟩
  exact Work.mapM_cons_eq_ok_iff.mpr ⟨_, (), [], suite, rfl, rfl⟩

/-- A run whose only fixture meets a fault has a report and exits with one. -/
theorem Program.run_accounts_unstarted :
    (∃ r w', Suite.runAll [.ofOne] (.steady none) {} () = .ok (r, w')) ∧
      ∃ response c as, run (.steady none) false .ofOne none .text () = .ok (.ok response, ()) ∧
        response.exitCode = 1 ∧ Selects .oneEmpty .ofOne none c (as.map Assignment.suite) ∧
        ¬ Assignment.AllPassed as := by
  obtain ⟨accounts, runs, ends, exits⟩ := run_accounts (Machine.steady none)
  refine ⟨ends _ _ _ fun _ _ _ _ _ _ => nofun, ?_⟩
  have fault : ¬ Assignment.AllPassed [.unstarted] := by
    intro passed
    cases passed _ List.mem_cons_self _ List.mem_cons_self
  have one := (accounts [.unstarted]).failure.mpr fault
  have ran := (runs [.ofOne] {} () _ ()).mpr ⟨_, rfl, Assignment.came_unstarted, rfl⟩
  have answered : run (.steady none) false .ofOne none .text () = _ :=
    run_eq_ok_iff.mpr ⟨_, _, _, selects_ofOne, ran, rfl⟩
  obtain ⟨c, as, selects, -, -, -, failure⟩ := exits _ _ _ _ _ _ _ answered
  exact ⟨_, c, as, answered, one, selects, failure.mp one⟩

end Conformance

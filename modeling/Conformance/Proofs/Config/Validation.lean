import Mathlib.Data.List.Nodup
import Conformance.Config

/-! # Validation

A configuration is accepted exactly if it obeys all rules, and what is reported of any other is the
first rule that it breaks: the extension before the exit codes, the exit codes before the suites,
and of the suites the first that breaks a rule.
-/

namespace Conformance.Config

structure IsValid (c : Config) : Prop where
  extension : c.extension ≠ ""
  exitCodes : c.exitCodes.compileError ≠ c.exitCodes.runtimeError
  named : ∀ s ∈ c.suites, s.name ≠ ""
  runnable : ∀ s ∈ c.suites, s.executable ≠ ""
  distinct : (c.suites.map SuiteConfig.name).Nodup

/-- The first rule that the suite at a place breaks. Places count from zero. -/
inductive SuiteBreaks (suites : List SuiteConfig) (i : Nat) : Problem → Prop
  | unnamed {s : SuiteConfig} : suites[i]? = some s → s.name = "" →
      SuiteBreaks suites i (.unnamedSuite (i + 1))
  | noExecutable {s : SuiteConfig} : suites[i]? = some s → s.name ≠ "" → s.executable = "" →
      SuiteBreaks suites i (.noExecutable s.name)
  | repeatedName {s t : SuiteConfig} {j : Nat} : suites[i]? = some s → s.name ≠ "" →
      s.executable ≠ "" → j < i → suites[j]? = some t → t.name = s.name →
      SuiteBreaks suites i (.repeatedName s.name)

inductive FirstProblem (c : Config) : Problem → Prop
  | extension : c.extension = "" → FirstProblem c .emptyExtension
  | exitCodes : c.extension ≠ "" → c.exitCodes.compileError = c.exitCodes.runtimeError →
      FirstProblem c (.equalExitCodes c.exitCodes.compileError)
  | suite {i : Nat} {p : Problem} : c.extension ≠ "" →
      c.exitCodes.compileError ≠ c.exitCodes.runtimeError → SuiteBreaks c.suites i p →
      (∀ j < i, ∀ q, ¬ SuiteBreaks c.suites j q) → FirstProblem c p

variable {earlier : List String} {s : SuiteConfig} {suites : List SuiteConfig} {p : Problem}

/-! ## One suite -/

theorem suiteProblem_eq_none_iff : suiteProblem earlier s = none ↔
    s.name ≠ "" ∧ s.executable ≠ "" ∧ s.name ∉ earlier := by
  unfold suiteProblem
  split_ifs with unnamed idle repeated <;> simp [*]

def namesBefore (suites : List SuiteConfig) (i : Nat) : List String :=
  (suites.take i).map SuiteConfig.name

theorem length_namesBefore {i : Nat} (found : suites[i]? = some s) :
    (namesBefore suites i).length = i := by
  obtain ⟨inside, -⟩ := List.getElem?_eq_some_iff.mp found
  rw [namesBefore, List.length_map, List.length_take, Nat.min_eq_left (Nat.le_of_lt inside)]

theorem mem_namesBefore_iff {name : String} {i : Nat} : name ∈ namesBefore suites i ↔
    ∃ j t, j < i ∧ suites[j]? = some t ∧ t.name = name := by
  rw [namesBefore, List.mem_map]
  constructor
  · rintro ⟨t, among, named⟩
    obtain ⟨j, found⟩ := List.mem_iff_getElem?.mp among
    rw [List.getElem?_take] at found
    split_ifs at found with before
    exact ⟨j, t, before, found, named⟩
  · rintro ⟨j, t, before, found, named⟩
    have taken : (suites.take i)[j]? = some t := by rw [List.getElem?_take_of_lt before, found]
    exact ⟨t, List.mem_iff_getElem?.mpr ⟨j, taken⟩, named⟩

theorem suiteBreaks_iff {i : Nat} : SuiteBreaks suites i p ↔
    ∃ s, suites[i]? = some s ∧ suiteProblem (namesBefore suites i) s = some p := by
  constructor
  · rintro (⟨found, unnamed⟩ | ⟨found, named, idle⟩ |
      ⟨found, named, runnable, before, other, same⟩)
    · exact ⟨_, found, by simp [suiteProblem, unnamed, length_namesBefore found]⟩
    · exact ⟨_, found, by simp [suiteProblem, named, idle]⟩
    · have repeated := mem_namesBefore_iff.mpr ⟨_, _, before, other, same⟩
      exact ⟨_, found, by simp [suiteProblem, named, runnable, repeated]⟩
  · rintro ⟨s, found, broken⟩
    unfold suiteProblem at broken
    split_ifs at broken with unnamed idle repeated <;> obtain rfl := Option.some.inj broken
    · rw [length_namesBefore found]
      exact .unnamed found unnamed
    · exact .noExecutable found unnamed idle
    · obtain ⟨j, t, before, other, same⟩ := mem_namesBefore_iff.mp repeated
      exact .repeatedName found unnamed idle before other same

/-! ## All suites -/

theorem suitesProblem_eq_none_iff : suitesProblem earlier suites = none ↔
    (∀ s ∈ suites, s.name ≠ "" ∧ s.executable ≠ "" ∧ s.name ∉ earlier) ∧
      (suites.map SuiteConfig.name).Nodup := by
  induction suites generalizing earlier with
  | nil => simp [suitesProblem]
  | cons s rest ih =>
    have apart : (∀ t ∈ rest, t.name ∉ earlier ++ [s.name]) ↔
        (∀ t ∈ rest, t.name ∉ earlier) ∧ s.name ∉ rest.map SuiteConfig.name := by
      simp only [List.mem_append, List.mem_singleton, not_or, List.mem_map, not_exists, not_and,
        forall_and]
    simp only [suitesProblem, Option.or_eq_none_iff, suiteProblem_eq_none_iff, ih, forall_and,
      apart, List.forall_mem_cons, List.map_cons, List.nodup_cons]
    tauto

theorem suitesProblem_eq_some_iff : suitesProblem earlier suites = some p ↔
    ∃ i, (∃ s, suites[i]? = some s ∧
        suiteProblem (earlier ++ namesBefore suites i) s = some p) ∧
      ∀ j < i, ∀ s, suites[j]? = some s →
        suiteProblem (earlier ++ namesBefore suites j) s = none := by
  induction suites generalizing earlier with
  | nil => simp [suitesProblem]
  | cons s rest ih =>
    have none_before : earlier ++ namesBefore (s :: rest) 0 = earlier := by simp [namesBefore]
    have names (i : Nat) : earlier ++ namesBefore (s :: rest) (i + 1) =
        earlier ++ [s.name] ++ namesBefore rest i := by simp [namesBefore]
    rw [suitesProblem, ← Nat.or_exists_add_one]
    simp only [Nat.forall_lt_succ_left, List.getElem?_cons_zero, List.getElem?_cons_succ, names,
      none_before, Option.some.injEq, exists_eq_left', forall_eq']
    cases first : suiteProblem earlier s with
    | some q => simp
    | none => simp [ih]

theorem suitesProblem_eq_some_iff_breaks : suitesProblem [] suites = some p ↔
    ∃ i, SuiteBreaks suites i p ∧ ∀ j < i, ∀ q, ¬ SuiteBreaks suites j q := by
  have obeys (j : Nat) : (∀ q, ¬ SuiteBreaks suites j q) ↔
      ∀ s, suites[j]? = some s → suiteProblem (namesBefore suites j) s = none := by
    simp only [suiteBreaks_iff, not_exists, not_and, Option.eq_none_iff_forall_ne_some]
    exact ⟨fun apart s found q => apart q s found, fun apart q s found => apart s found q⟩
  simp only [suitesProblem_eq_some_iff, List.nil_append, suiteBreaks_iff, ← obeys]

/-! ## The whole configuration -/

theorem problem_eq_none_iff {c : Config} : c.problem = none ↔ c.IsValid := by
  unfold problem
  split_ifs with empty equal
  · exact iff_of_false nofun fun valid => valid.extension empty
  · exact iff_of_false nofun fun valid => valid.exitCodes equal
  · rw [suitesProblem_eq_none_iff]
    constructor
    · rintro ⟨each, distinct⟩
      exact ⟨empty, equal, fun s among => (each s among).1, fun s among => (each s among).2.1,
        distinct⟩
    · intro valid
      refine ⟨fun s among => ⟨valid.named s among, valid.runnable s among, ?_⟩, valid.distinct⟩
      exact List.not_mem_nil

theorem problem_eq_some_iff {c : Config} : c.problem = some p ↔ c.FirstProblem p := by
  unfold problem
  split_ifs with empty equal
  · constructor
    · rintro ⟨⟩
      exact .extension empty
    · rintro (_ | ⟨full, -⟩ | ⟨full, -, -, -⟩)
      · rfl
      · exact absurd empty full
      · exact absurd empty full
  · constructor
    · rintro ⟨⟩
      exact .exitCodes empty equal
    · rintro (missing | _ | ⟨-, differ, -, -⟩)
      · exact absurd missing empty
      · rfl
      · exact absurd equal differ
  · rw [suitesProblem_eq_some_iff_breaks]
    constructor
    · rintro ⟨i, broken, first⟩
      exact .suite empty equal broken first
    · rintro (missing | ⟨-, same⟩ | ⟨-, -, broken, first⟩)
      · exact absurd missing empty
      · exact absurd same equal
      · exact ⟨_, broken, first⟩

theorem isValid_of_validate {c d : Config} (accepted : c.validate = .ok d) : c.IsValid := by
  cases broken : c.problem with
  | none => exact problem_eq_none_iff.mp broken
  | some p =>
    rw [validate, broken] at accepted
    cases accepted

/-- Validation accepts exactly the configurations that obey all rules, as they are, and reports of
any other the first rule that it breaks. -/
theorem validate_exact (c : Config) :
    (c.validate = .ok c ↔ c.IsValid) ∧ (∀ d, c.validate = .ok d → d = c) ∧
      ∀ e, c.validate = .error e ↔ ∃ p, c.FirstProblem p ∧ e = p.fault := by
  simp only [← problem_eq_none_iff, ← problem_eq_some_iff]
  unfold validate
  cases c.problem with
  | none => simp
  | some p => simp [eq_comm]

end Conformance.Config

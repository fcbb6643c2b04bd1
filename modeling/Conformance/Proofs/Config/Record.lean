import Mathlib.Data.List.Nodup
import Conformance.Config.Decoder

/-! # Records

What the fields of a record must be for the record to be read as a value, in every format: no known
name is given twice, a field that has to be there is, and a name that is not given stands for its
default. The order of the fields is of no account.
-/

namespace Conformance.ValueFormat

variable {V α : Type} {n : ValueFormat V} {v : V} {fields : List (String × V)}
  {names : List String} {name : String} {default a : α} {read : V → Option α}

/-! ## One field -/

def Once (fields : List (String × V)) (names : List String) : Prop :=
  ∀ name ∈ names, (fields.filter fun field => field.1 = name).length ≤ 1

/-- A field that must be there is read as a value. -/
def Requires (fields : List (String × V)) (name : String) (read : V → Option α) (a : α) : Prop :=
  ∃ v, (name, v) ∈ fields ∧ read v = some a

/-- A field is read as a value, which is the default if the field is left out. -/
structure Gives (fields : List (String × V)) (name : String) (default : α) (read : V → Option α)
    (a : α) : Prop where
  given : ∀ v, (name, v) ∈ fields → read v = some a
  absent : (∀ v, (name, v) ∉ fields) → a = default

theorem once_iff : once fields names = true ↔ Once fields names := by
  simp [once, Once]

theorem once_of_nodup (distinct : (fields.map Prod.fst).Nodup) : Once fields names := by
  intro name _
  have single := List.nodup_iff_count_le_one.mp distinct name
  rwa [List.count_eq_countP, List.countP_map, List.countP_eq_length_filter] at single

theorem find?_of_mem (single : (fields.filter fun field => field.1 = name).length ≤ 1)
    (given : (name, v) ∈ fields) :
    (fields.find? fun field => field.1 = name) = some (name, v) := by
  have kept : (name, v) ∈ fields.filter fun field => field.1 = name :=
    List.mem_filter.mpr ⟨given, decide_eq_true rfl⟩
  rw [← List.head?_filter]
  match found : fields.filter fun field => field.1 = name with
  | [] => simp [found] at kept
  | [field] =>
    rw [found, List.mem_singleton] at kept
    rw [kept, found, List.head?_cons]
  | _ :: _ :: _ => simp [found] at single

theorem find?_eq_none_iff_absent :
    (fields.find? fun field => field.1 = name) = none ↔ ∀ v, (name, v) ∉ fields := by
  rw [List.find?_eq_none]
  constructor
  · intro absent v given
    exact absent _ given (decide_eq_true rfl)
  · rintro absent ⟨other, v⟩ given same
    obtain rfl : other = name := of_decide_eq_true same
    exact absent v given

theorem exists_find?_eq (single : (fields.filter fun field => field.1 = name).length ≤ 1) :
    (∃ v, (name, v) ∈ fields ∧ (fields.find? fun field => field.1 = name) = some (name, v)) ∨
      (∀ v, (name, v) ∉ fields) ∧ (fields.find? fun field => field.1 = name) = none := by
  by_cases absent : ∀ v, (name, v) ∉ fields
  · exact .inr ⟨absent, find?_eq_none_iff_absent.mpr absent⟩
  · obtain ⟨v, given⟩ := Classical.not_forall_not.mp absent
    exact .inl ⟨v, given, find?_of_mem single given⟩

theorem fieldOr_eq_some_iff (single : (fields.filter fun field => field.1 = name).length ≤ 1) :
    fieldOr fields name default read = some a ↔ Gives fields name default read a := by
  rcases exists_find?_eq single with ⟨v, given, found⟩ | ⟨absent, found⟩
  · simp only [fieldOr, found]
    constructor
    · intro answer
      refine ⟨fun w other => ?_, fun absent => absurd given (absent v)⟩
      have same := found.symm.trans (find?_of_mem single other)
      obtain ⟨-, rfl⟩ := Prod.mk.inj (Option.some.inj same)
      exact answer
    · exact fun gives => gives.given v given
  · simp only [fieldOr, found, Option.some.injEq]
    constructor
    · rintro rfl
      exact ⟨fun v given => absurd given (absent v), fun _ => rfl⟩
    · exact fun gives => (gives.absent absent).symm

theorem field_eq_some_iff (single : (fields.filter fun field => field.1 = name).length ≤ 1) :
    field fields name read = some a ↔ Requires fields name read a := by
  rcases exists_find?_eq single with ⟨v, given, found⟩ | ⟨absent, found⟩
  · simp only [field, found, Option.bind_some]
    constructor
    · exact fun answer => ⟨v, given, answer⟩
    · rintro ⟨w, other, answer⟩
      have same := found.symm.trans (find?_of_mem single other)
      obtain ⟨-, rfl⟩ := Prod.mk.inj (Option.some.inj same)
      exact answer
  · simp only [field, found, Option.bind_none, reduceCtorEq, false_iff]
    rintro ⟨w, given, -⟩
    exact absent w given

/-! ## Whole records -/

/-- The fields of a record, with no known name given twice. -/
def IsRecord (n : ValueFormat V) (names : List String) (v : V) (fields : List (String × V)) :
    Prop :=
  n.fields names v = some fields ∧ Once fields names

def IsKnown (names : List String) (fields : List (String × V)) : Prop :=
  ∀ field ∈ fields, field.1 ∈ names

theorem lenient_eq_some_iff : n.lenient names v = some fields ↔ n.IsRecord names v fields := by
  simp [lenient, Option.filter_eq_some_iff, once_iff, IsRecord]

theorem strict_eq_some_iff :
    n.strict names v = some fields ↔ n.IsRecord names v fields ∧ IsKnown names fields := by
  simp [strict, Option.filter_eq_some_iff, once_iff, IsRecord, IsKnown, and_assoc]

theorem exitCodes_eq_some_iff {codes : ExitCodes} : n.exitCodes v = some codes ↔
    ∃ fields, n.IsRecord exitCodeNames v fields ∧
      Gives fields "compile_error" 65 n.exitCode codes.compileError ∧
      Gives fields "runtime_error" 70 n.exitCode codes.runtimeError := by
  obtain ⟨compileError, runtimeError⟩ := codes
  simp only [exitCodes, Option.bind_eq_bind, Option.bind_eq_some_iff, lenient_eq_some_iff]
  refine exists_congr fun fields => and_congr_right fun record => ?_
  have single {name : String} (known : name ∈ exitCodeNames) := record.2 name known
  rw [← fieldOr_eq_some_iff (single (by decide)), ← fieldOr_eq_some_iff (single (by decide))]
  simp

theorem suite_eq_some_iff {s : SuiteConfig} : n.suite v = some s ↔
    ∃ fields, n.IsRecord suiteNames v fields ∧ IsKnown suiteNames fields ∧
      Requires fields "name" n.text s.name ∧ Requires fields "executable" n.text s.executable ∧
      Gives fields "args" [] n.texts s.args ∧
      Gives fields "language" none n.optionalText s.language ∧
      Gives fields "root" "tests" n.text s.root ∧
      Gives fields "per_directory" false n.bool s.perDirectory := by
  obtain ⟨name, executable, args, language, root, perDirectory⟩ := s
  simp only [suite, Option.bind_eq_bind, Option.bind_eq_some_iff, strict_eq_some_iff, and_assoc]
  refine exists_congr fun fields => and_congr_right fun record => and_congr_right fun _ => ?_
  have single {name : String} (known : name ∈ suiteNames) := record.2 name known
  rw [← field_eq_some_iff (single (by decide)), ← field_eq_some_iff (single (by decide)),
    ← fieldOr_eq_some_iff (single (by decide)), ← fieldOr_eq_some_iff (single (by decide)),
    ← fieldOr_eq_some_iff (single (by decide)), ← fieldOr_eq_some_iff (single (by decide))]
  simp [-Bool.exists_bool]

def suites (n : ValueFormat V) (v : V) : Option (List SuiteConfig) :=
  (n.items v).bind fun items => items.mapM n.suite

theorem config_eq_some_iff {c : Config} : n.config v = some c ↔
    ∃ fields, n.IsRecord configNames v fields ∧ IsKnown configNames fields ∧
      Gives fields "exit_codes" {} n.exitCodes c.exitCodes ∧
      Gives fields "timeout_secs" 10 n.counter c.timeoutSecs ∧
      Gives fields "jobs" 0 n.counter c.jobs ∧ Gives fields "extension" "lox" n.text c.extension ∧
      Gives fields "exclude" ["benchmark"] n.texts c.exclude ∧
      Gives fields "suites" [] n.suites c.suites := by
  obtain ⟨exitCodes, timeoutSecs, jobs, extension, exclude, suites⟩ := c
  simp only [config, Option.bind_eq_bind, Option.bind_eq_some_iff, strict_eq_some_iff, and_assoc]
  refine exists_congr fun fields => and_congr_right fun record => and_congr_right fun _ => ?_
  have single {name : String} (known : name ∈ configNames) := record.2 name known
  have suites_eq : n.suites = fun v => (n.items v).bind fun items => items.mapM n.suite := rfl
  rw [← fieldOr_eq_some_iff (single (by decide)), ← fieldOr_eq_some_iff (single (by decide)),
    ← fieldOr_eq_some_iff (single (by decide)), ← fieldOr_eq_some_iff (single (by decide)),
    ← fieldOr_eq_some_iff (single (by decide)), ← fieldOr_eq_some_iff (single (by decide))]
  simp [suites_eq]

end Conformance.ValueFormat

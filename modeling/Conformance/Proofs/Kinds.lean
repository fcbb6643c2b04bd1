import Conformance.Proofs.Config.Validation
import Conformance.Proofs.Diagnostic
import Conformance.Proofs.Expected
import Conformance.Proofs.Verdict

/-! # The three kinds of fixtures

A fixture expects a clean run, compile errors or a runtime error. An output that passes shows which
of them its fixture expects: a clean run writes nothing to the error stream, each kind of error
writes something, and the exit codes of the two kinds of error differ in every configuration that
is accepted. So no output passes two fixtures of different kinds. The exit code alone tells an error
from a clean run only if neither code is zero, which a configuration need not obey.
-/

namespace Conformance

open Conformance.Text

/-- What a fixture expects of the run as a whole. -/
inductive Expectations.Kind where
  | clean
  | compileError
  | runtimeError
deriving DecidableEq, Repr

def Expectations.HasKind (e : Expectations) : Expectations.Kind → Prop
  | .clean => e.errors = [] ∧ e.runtimeError = none
  | .compileError => e.errors ≠ []
  | .runtimeError => e.runtimeError ≠ none

def Output.Complains (o : Output) : Prop :=
  ∃ line ∈ outputLines o.stderr.toList, line ≠ []

/-- What an output that passes shows of the kind of its fixture. -/
def Output.Shows (codes : ExitCodes) (o : Output) : Expectations.Kind → Prop
  | .clean => ¬ o.Complains
  | .compileError => o.Complains ∧ o.exitCode = codes.compileError
  | .runtimeError => o.Complains ∧ o.exitCode = codes.runtimeError

theorem Output.kind_unique {codes : ExitCodes} (distinct : codes.compileError ≠ codes.runtimeError)
    {o : Output} {k₁ k₂ : Expectations.Kind} (h₁ : o.Shows codes k₁) (h₂ : o.Shows codes k₂) :
    k₁ = k₂ := by
  cases k₁ <;> cases k₂
  case clean.clean | compileError.compileError | runtimeError.runtimeError => rfl
  case clean.compileError | clean.runtimeError => exact absurd h₂.1 h₁
  case compileError.clean | runtimeError.clean => exact absurd h₁.1 h₂
  case compileError.runtimeError => exact absurd (h₁.2.symm.trans h₂.2) distinct
  case runtimeError.compileError => exact absurd (h₂.2.symm.trans h₁.2) distinct

theorem Diagnostic.HasFrame.ne_nil {line : List Char} (h : Diagnostic.HasFrame line) :
    line ≠ [] := by
  obtain ⟨digits, -, inside⟩ := h
  rintro rfl
  simpa using List.infix_nil.mp inside

theorem ShowsRuntimeError.complains {message : String} {o : Output}
    (h : ShowsRuntimeError message o.stderr) : o.Complains := by
  obtain ⟨line, mem, frame⟩ := h.trace
  exact ⟨line, List.mem_of_mem_tail mem, frame.ne_nil⟩

theorem ReportsExactly.complains_iff {errors : List String} {o : Output}
    (h : ReportsExactly errors o.stderr) : o.Complains ↔ errors ≠ [] := by
  constructor
  · rintro ⟨line, mem, nonempty⟩
    obtain ⟨d, -, known⟩ := h.expected line mem nonempty
    exact List.ne_nil_of_mem known
  · intro some_error
    obtain ⟨error, known⟩ := List.exists_mem_of_ne_nil errors some_error
    obtain ⟨line, mem, d, recognised, -⟩ := h.complete error known
    refine ⟨line, mem, ?_⟩
    rintro rfl
    rw [Diagnostic.recognise_nil] at recognised
    cases recognised

theorem Expectations.MetBy.shows_kind {codes : ExitCodes} {e : Expectations} {o : Output}
    {k : Expectations.Kind} (met : e.MetBy o) (consistent : e.IsConsistent codes)
    (kind : e.HasKind k) : o.Shows codes k := by
  have stderr := met.stderr
  cases k with
  | clean =>
    rw [kind.2] at stderr
    rw [Output.Shows, stderr.complains_iff, kind.1]
    exact not_not_intro rfl
  | compileError =>
    rw [consistent.exclusive.resolve_left kind] at stderr
    exact ⟨stderr.complains_iff.mpr kind, met.exitCode.trans (consistent.compileError kind)⟩
  | runtimeError =>
    obtain ⟨r, expects⟩ := Option.ne_none_iff_exists'.mp kind
    rw [expects] at stderr
    exact ⟨stderr.complains, met.exitCode.trans (consistent.runtimeError kind)⟩

theorem Config.exitCodes_distinct {c checked : Config} (h : c.validate = .ok checked) :
    c.exitCodes.compileError ≠ c.exitCodes.runtimeError :=
  (isValid_of_validate h).exitCodes

/-- No output passes two fixtures of different kinds. -/
theorem Fixture.kinds_separated {c checked : Config} (valid : c.validate = .ok checked)
    {language₁ language₂ : Option String} {path₁ path₂ source₁ source₂ : String}
    {e₁ e₂ : Expectations} {k₁ k₂ : Expectations.Kind}
    (read₁ : Fixture.read ⟨language₁, c.exitCodes⟩ path₁ source₁ = .ok e₁)
    (read₂ : Fixture.read ⟨language₂, c.exitCodes⟩ path₂ source₂ = .ok e₂)
    (kind₁ : e₁.HasKind k₁) (kind₂ : e₂.HasKind k₂) (different : k₁ ≠ k₂) (o : Output) :
    ¬ (e₁.judge o = [] ∧ e₂.judge o = []) := by
  rintro ⟨passes₁, passes₂⟩
  have met₁ := (e₁.judge_eq_nil_iff o).mp passes₁
  have met₂ := (e₂.judge_eq_nil_iff o).mp passes₂
  have shows₁ := met₁.shows_kind (Fixture.isConsistent_of_read read₁) kind₁
  have shows₂ := met₂.shows_kind (Fixture.isConsistent_of_read read₂) kind₂
  exact different (Output.kind_unique (Config.exitCodes_distinct valid) shows₁ shows₂)

/-- A compile error is told from a clean run even if its exit code is zero. -/
theorem Fixture.kinds_separated_exit_zero :
    Fixture.read ⟨none, ⟨0, 70⟩⟩ "clean.lox" "print 1; // expect: 1" =
        .ok { output := [⟨1, "1"⟩], count := 1 } ∧
      Fixture.read ⟨some "c", ⟨0, 70⟩⟩ "broken.lox" "print // Error: Expect expression." =
        .ok { errors := ["[1] Error: Expect expression."], count := 1 } ∧
      ¬ (({ output := [⟨1, "1"⟩], count := 1 } : Expectations).judge {} = [] ∧
        ({ errors := ["[1] Error: Expect expression."], count := 1 } : Expectations).judge {} =
          []) := by
  have valid : ({ exitCodes := ⟨0, 70⟩ } : Config).validate = .ok { exitCodes := ⟨0, 70⟩ } := rfl
  have clean : Fixture.read ⟨none, ⟨0, 70⟩⟩ "clean.lox" "print 1; // expect: 1" =
      .ok { output := [⟨1, "1"⟩], count := 1 } := rfl
  have broken : Fixture.read ⟨some "c", ⟨0, 70⟩⟩ "broken.lox"
      "print // Error: Expect expression." =
      .ok { errors := ["[1] Error: Expect expression."], count := 1 } := rfl
  have of_clean : Expectations.HasKind { output := [⟨1, "1"⟩], count := 1 } .clean := ⟨rfl, rfl⟩
  have of_broken : Expectations.HasKind
      { errors := ["[1] Error: Expect expression."], count := 1 } .compileError :=
    List.cons_ne_nil _ _
  exact ⟨clean, broken,
    Fixture.kinds_separated valid clean broken of_clean of_broken (by decide) {}⟩

/-! ## Exit codes of zero -/

namespace Expectations

theorem exists_kind (e : Expectations) : ∃ k, e.HasKind k := by
  by_cases errors : e.errors = []
  · by_cases runtime : e.runtimeError = none
    · exact ⟨.clean, errors, runtime⟩
    · exact ⟨.runtimeError, runtime⟩
  · exact ⟨.compileError, errors⟩

theorem IsConsistent.exitCode_eq_zero_iff {codes : ExitCodes} {e : Expectations}
    (consistent : e.IsConsistent codes) (distinct : codes.compileError ≠ codes.runtimeError) :
    e.exitCode = 0 ↔ e.HasKind .clean ∨
      (e.HasKind .compileError ∧ codes.compileError = 0 ∧ codes.runtimeError ≠ 0) ∨
      (e.HasKind .runtimeError ∧ codes.runtimeError = 0 ∧ codes.compileError ≠ 0) := by
  constructor
  · intro zero
    obtain ⟨k, kind⟩ := e.exists_kind
    cases k with
    | clean => exact .inl kind
    | compileError =>
      have code := consistent.compileError kind
      exact .inr (.inl ⟨kind, by omega, by omega⟩)
    | runtimeError =>
      have code := consistent.runtimeError kind
      exact .inr (.inr ⟨kind, by omega, by omega⟩)
  · rintro (⟨no_errors, no_runtime⟩ | ⟨errors, zero, -⟩ | ⟨runtime, zero, -⟩)
    · exact consistent.clean no_errors no_runtime
    · exact (consistent.compileError errors).trans zero
    · exact (consistent.runtimeError runtime).trans zero

end Expectations

/-- Every fixture that expects an error asks for an exit code other than zero, and no other fixture
does. -/
def Config.DemandsFailure (c : Config) : Prop :=
  ∀ language path source e, Fixture.read ⟨language, c.exitCodes⟩ path source = .ok e →
    (e.exitCode = 0 ↔ e.HasKind .clean)

theorem Fixture.read_smallest_error (codes : ExitCodes) (path : String) :
    Fixture.read ⟨none, codes⟩ path "// Error" =
      .ok { errors := ["[1] Error"], exitCode := codes.compileError, count := 1 } := rfl

theorem Fixture.read_smallest_runtimeError (codes : ExitCodes) (path : String) :
    Fixture.read ⟨none, codes⟩ path "// expect runtime error: x" =
      .ok { runtimeError := some ⟨1, "x"⟩, exitCode := codes.runtimeError, count := 1 } := rfl

theorem Config.DemandsFailure.nonzero {c : Config} (demands : c.DemandsFailure) :
    c.exitCodes.compileError ≠ 0 ∧ c.exitCodes.runtimeError ≠ 0 := by
  constructor
  · intro zero
    have clean := (demands _ _ _ _ (Fixture.read_smallest_error c.exitCodes "")).mp zero
    exact absurd clean.1 (List.cons_ne_nil _ _)
  · intro zero
    have clean := (demands _ _ _ _ (Fixture.read_smallest_runtimeError c.exitCodes "")).mp zero
    exact absurd clean.2 (Option.some_ne_none _)

/-- Configurations are not kept from a code of zero for one of the two kinds of error. Then, and
only then, a fixture of that kind asks for the exit code of a clean run. -/
theorem Config.demandsFailure_iff {c checked : Config} (valid : c.validate = .ok checked) :
    (c.DemandsFailure ↔ c.exitCodes.compileError ≠ 0 ∧ c.exitCodes.runtimeError ≠ 0) ∧
      ∀ language path source e, Fixture.read ⟨language, c.exitCodes⟩ path source = .ok e →
        (e.exitCode = 0 ↔ e.HasKind .clean ∨
          (e.HasKind .compileError ∧ c.exitCodes.compileError = 0 ∧
            c.exitCodes.runtimeError ≠ 0) ∨
          (e.HasKind .runtimeError ∧ c.exitCodes.runtimeError = 0 ∧
            c.exitCodes.compileError ≠ 0)) := by
  have distinct := Config.exitCodes_distinct valid
  have told : ∀ {language path source e},
      Fixture.read ⟨language, c.exitCodes⟩ path source = .ok e → _ := fun read =>
    (Fixture.isConsistent_of_read read).exitCode_eq_zero_iff distinct
  refine ⟨⟨Config.DemandsFailure.nonzero, ?_⟩, fun _ _ _ _ read => told read⟩
  rintro ⟨compile, runtime⟩ language path source e read
  constructor
  · intro zero
    rcases (told read).mp zero with clean | ⟨-, code, -⟩ | ⟨-, code, -⟩
    · exact clean
    · exact absurd code compile
    · exact absurd code runtime
  · intro clean
    exact (told read).mpr (.inl clean)

/-- A compile error may have an exit code of zero, and the fixture then asks for a clean exit. -/
theorem Config.demandsFailure_compile_zero :
    ({ exitCodes := ⟨0, 70⟩ } : Config).validate = .ok { exitCodes := ⟨0, 70⟩ } ∧
      Fixture.read ⟨some "c", ⟨0, 70⟩⟩ "broken.lox" "print // Error: Expect expression." =
        .ok { errors := ["[1] Error: Expect expression."], count := 1 } ∧
      ¬ ({ exitCodes := ⟨0, 70⟩ } : Config).DemandsFailure := by
  have valid : ({ exitCodes := ⟨0, 70⟩ } : Config).validate = .ok { exitCodes := ⟨0, 70⟩ } := rfl
  refine ⟨valid, rfl, ?_⟩
  intro demands
  exact ((Config.demandsFailure_iff valid).1.mp demands).1 rfl

end Conformance

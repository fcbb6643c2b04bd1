import Conformance.Fixture.Load
import Conformance.Proofs.Text.Search
import Mathlib.Data.List.Basic

/-! # Fixtures as a whole

The expectations of a fixture in terms of all its directives at once: which lines belong to the
test, which directives count, where the first conflict is, and what they add up to. Reading line by
line keeps the sum of the directives read so far, as long as no conflict has shown.
-/

namespace Conformance.Fixture

open Conformance.Text

/-- A directive that counts, with the number of its line. -/
structure Placed where
  line : Nat
  directive : Directive
deriving DecidableEq, Repr

namespace Placed

def output? (p : Placed) : Option ExpectedOutput :=
  match p.directive with
  | .output text => some ⟨p.line, text⟩
  | _ => none

def error? (p : Placed) : Option String :=
  match p.directive with
  | .error message => some (Diagnostic.format (toString p.line) message)
  | .errorAt _ digits message => some (Diagnostic.format digits message)
  | _ => none

def runtimeError? (p : Placed) : Option ExpectedRuntimeError :=
  match p.directive with
  | .runtimeError message => some ⟨p.line, message⟩
  | _ => none

end Placed

/-- The numbered lines of the test: those before the first that ends it. -/
def testLines (source : String) : List (List Char × Nat) :=
  ((sourceLines source.toList).takeWhile fun line =>
    !decide ("// nontest".toList <:+: line)).zipIdx 1

def placed? (options : ReadingOptions) (line : List Char) (number : Nat) : Option Placed :=
  ((Directive.recognise line).filter fun d => d.applies options.language).map fun d => ⟨number, d⟩

/-- The directives of a fixture that count, in order. -/
def directives (options : ReadingOptions) (source : String) : List Placed :=
  (testLines source).filterMap fun (line, number) => placed? options line number

/-- The number of the first line that asks for something. -/
def firstLine {α : Type} (asks : Placed → Option α) (ps : List Placed) : Option Nat :=
  (ps.find? fun p => (asks p).isSome).map Placed.line

/-- The line at which compile errors and a runtime error are both known. -/
def conflictLine (ps : List Placed) : Option Nat :=
  match firstLine Placed.error? ps, firstLine Placed.runtimeError? ps with
  | some a, some b => some (max a b)
  | _, _ => none

def sum (codes : ExitCodes) (ps : List Placed) : Expectations :=
  let errors := ps.filterMap Placed.error?
  let runtimeErrors := ps.filterMap Placed.runtimeError?
  { output := ps.filterMap Placed.output?
    errors := errors.eraseDups
    runtimeError := runtimeErrors.getLast?
    exitCode :=
      if runtimeErrors ≠ [] then codes.runtimeError
      else if errors ≠ [] then codes.compileError
      else 0
    count := ps.length }

def resolve (codes : ExitCodes) (ps : List Placed) : Except Nat Expectations :=
  match conflictLine ps with
  | some number => .error number
  | none => .ok (sum codes ps)

def readWhole (options : ReadingOptions) (path source : String) : Except Fault Expectations :=
  match conflictLine (directives options source) with
  | some number => .error (.refusedFixture path (conflictReason number))
  | none => .ok (sum options.exitCodes (directives options source))

/-! ## Conflicts -/

section Conflicts

variable {α : Type} {asks : Placed → Option α} {ps : List Placed} {p : Placed}

theorem firstLine_append (asks : Placed → Option α) (ps more : List Placed) :
    firstLine asks (ps ++ more) = (firstLine asks ps).or (firstLine asks more) := by
  rw [firstLine, List.find?_append, Option.map_or]
  rfl

theorem firstLine_singleton (asks : Placed → Option α) (p : Placed) :
    firstLine asks [p] = if (asks p).isSome then some p.line else none := by
  unfold firstLine
  split
  · next some_asked => simp [some_asked]
  · next none_asked => simp [none_asked]

theorem firstLine_eq_none_iff : firstLine asks ps = none ↔ ps.filterMap asks = [] := by
  simp [firstLine]

theorem le_of_firstLine {bound n : Nat} (h : firstLine asks ps = some n)
    (before : ∀ p ∈ ps, p.line ≤ bound) : n ≤ bound := by
  obtain ⟨p, found, rfl⟩ := Option.map_eq_some_iff.mp h
  exact before p (List.mem_of_find?_eq_some found)

theorem conflictLine_eq_some_iff {number : Nat} : conflictLine ps = some number ↔
    ∃ a b, firstLine Placed.error? ps = some a ∧ firstLine Placed.runtimeError? ps = some b ∧
      max a b = number := by
  unfold conflictLine
  split
  · next a b ha hb => simp [ha, hb]
  · next h =>
    simp only [reduceCtorEq, false_iff, not_exists]
    rintro a b ⟨ha, hb, -⟩
    exact h a b ha hb

theorem conflictLine_eq_none_iff : conflictLine ps = none ↔
    ps.filterMap Placed.error? = [] ∨ ps.filterMap Placed.runtimeError? = [] := by
  rw [← firstLine_eq_none_iff, ← firstLine_eq_none_iff]
  unfold conflictLine
  split
  · next a b ha hb => simp [ha, hb]
  · next h =>
    simp only [true_iff]
    by_contra both
    rw [not_or] at both
    obtain ⟨a, ha⟩ := Option.ne_none_iff_exists'.mp both.1
    obtain ⟨b, hb⟩ := Option.ne_none_iff_exists'.mp both.2
    exact h a b ha hb

theorem conflictLine_append {number : Nat} (h : conflictLine ps = some number)
    (more : List Placed) : conflictLine (ps ++ more) = some number := by
  obtain ⟨a, b, ha, hb, rfl⟩ := conflictLine_eq_some_iff.mp h
  rw [conflictLine_eq_some_iff]
  exact ⟨a, b, by rw [firstLine_append, ha, Option.some_or],
    by rw [firstLine_append, hb, Option.some_or], rfl⟩

/-- A conflict shows at the line that completes it. -/
theorem conflictLine_of_append {number : Nat} (calm : conflictLine ps = none)
    (before : ∀ q ∈ ps, q.line < p.line) (h : conflictLine (ps ++ [p]) = some number) :
    number = p.line := by
  obtain ⟨a, b, ha, hb, rfl⟩ := conflictLine_eq_some_iff.mp h
  have bounded : ∀ q ∈ ps ++ [p], q.line ≤ p.line := by
    intro q mem
    rcases List.mem_append.mp mem with mem | mem
    · exact Nat.le_of_lt (before q mem)
    · rw [List.mem_singleton.mp mem]
  have a_le := le_of_firstLine ha bounded
  have b_le := le_of_firstLine hb bounded
  have completes : a = p.line ∨ b = p.line := by
    rw [firstLine_append, firstLine_singleton] at ha hb
    rcases conflictLine_eq_none_iff.mp calm with no_error | no_runtime
    · rw [firstLine_eq_none_iff.mpr no_error, Option.none_or] at ha
      split at ha
      · exact Or.inl (Option.some.inj ha).symm
      · cases ha
    · rw [firstLine_eq_none_iff.mpr no_runtime, Option.none_or] at hb
      split at hb
      · exact Or.inr (Option.some.inj hb).symm
      · cases hb
  omega

end Conflicts

/-! ## Adding up -/

section Sum

variable (codes : ExitCodes) (ps : List Placed) (p : Placed)

theorem eraseDups_append_singleton (errors : List String) (error : String) :
    (errors ++ [error]).eraseDups =
      if error ∈ errors then errors.eraseDups else errors.eraseDups ++ [error] := by
  rw [List.eraseDups_append]
  split
  · next known => simp [List.removeAll, known]
  · next new => simp [List.removeAll, new, List.eraseDups_cons]

theorem addError_errors {e : Expectations} {errors : List String} (h : e.errors = errors.eraseDups)
    (error : String) : (e.addError error).errors = (errors ++ [error]).eraseDups := by
  rw [eraseDups_append_singleton, Expectations.addError, h]
  simp only [List.mem_eraseDups]
  split
  · exact h
  · rfl

@[simp] theorem addError_output (e : Expectations) (error : String) :
    (e.addError error).output = e.output := by
  unfold Expectations.addError
  split <;> rfl

@[simp] theorem addError_runtimeError (e : Expectations) (error : String) :
    (e.addError error).runtimeError = e.runtimeError := by
  unfold Expectations.addError
  split <;> rfl

def extend (codes : ExitCodes) (e : Expectations) (p : Placed) : Expectations :=
  { e.addDirective codes p.line p.directive with count := e.count + 1 }

theorem output_extend :
    (extend codes (sum codes ps) p).output = (ps ++ [p]).filterMap Placed.output? := by
  obtain ⟨line, directive⟩ := p
  rw [List.filterMap_append]
  cases directive <;> simp [extend, Expectations.addDirective, Placed.output?, sum]

theorem errors_extend :
    (extend codes (sum codes ps) p).errors = ((ps ++ [p]).filterMap Placed.error?).eraseDups := by
  obtain ⟨line, directive⟩ := p
  rw [List.filterMap_append]
  cases directive with
  | output text =>
    simp [extend, Expectations.addDirective, Placed.error?, sum, List.filterMap_cons]
  | error message => exact addError_errors rfl _
  | errorAt tag digits message => exact addError_errors rfl _
  | runtimeError message =>
    simp [extend, Expectations.addDirective, Placed.error?, sum, List.filterMap_cons]

theorem runtimeError_extend :
    (extend codes (sum codes ps) p).runtimeError =
      ((ps ++ [p]).filterMap Placed.runtimeError?).getLast? := by
  obtain ⟨line, directive⟩ := p
  rw [List.filterMap_append, List.getLast?_append]
  cases directive <;> simp [extend, Expectations.addDirective, Placed.runtimeError?, sum]

/-- The last directive that sets the exit code is of the only kind there is. -/
theorem exitCode_extend (calm : conflictLine (ps ++ [p]) = none) :
    (extend codes (sum codes ps) p).exitCode = (sum codes (ps ++ [p])).exitCode := by
  obtain ⟨line, directive⟩ := p
  have clear := conflictLine_eq_none_iff.mp calm
  simp only [List.filterMap_append, List.append_eq_nil_iff] at clear
  cases directive with
  | output text =>
    simp [extend, Expectations.addDirective, sum, Placed.error?, Placed.runtimeError?,
      List.filterMap_cons]
  | error message =>
    have no_runtime := (clear.resolve_left fun h => by simp [Placed.error?] at h).1
    simp [extend, Expectations.addDirective, sum, Placed.error?, Placed.runtimeError?, no_runtime]
  | errorAt tag digits message =>
    have no_runtime := (clear.resolve_left fun h => by simp [Placed.error?] at h).1
    simp [extend, Expectations.addDirective, sum, Placed.error?, Placed.runtimeError?, no_runtime]
  | runtimeError message =>
    simp [extend, Expectations.addDirective, sum, Placed.runtimeError?]

theorem extend_sum (calm : conflictLine (ps ++ [p]) = none) :
    extend codes (sum codes ps) p = sum codes (ps ++ [p]) := by
  have output := output_extend codes ps p
  have errors := errors_extend codes ps p
  have runtimeError := runtimeError_extend codes ps p
  have exitCode := exitCode_extend codes ps p calm
  have count : (extend codes (sum codes ps) p).count = (sum codes (ps ++ [p])).count := by
    simp [extend, sum]
  cases extended : extend codes (sum codes ps) p
  rw [extended] at output errors runtimeError exitCode count
  simp only [sum] at output errors runtimeError exitCode count ⊢
  rw [output, errors, runtimeError, exitCode, count]

theorem isConflicting_of_views {e : Expectations} (errors : e.errors =
      (ps.filterMap Placed.error?).eraseDups)
    (runtimeError : e.runtimeError = (ps.filterMap Placed.runtimeError?).getLast?) :
    e.isConflicting = (conflictLine ps).isSome := by
  rw [Bool.eq_iff_iff, ← Option.ne_none_iff_isSome, Ne, conflictLine_eq_none_iff, not_or]
  have empty : e.errors = [] ↔ ps.filterMap Placed.error? = [] := by
    simp only [List.eq_nil_iff_forall_not_mem, errors, List.mem_eraseDups]
  simp only [Expectations.isConflicting, Bool.and_eq_true, Bool.not_eq_true',
    List.isEmpty_eq_false_iff, runtimeError, List.getLast?_isSome, Ne, empty]
  exact and_comm

end Sum

/-! ## Reading line by line -/

def placedFrom (options : ReadingOptions) (number : Nat) (lines : List (List Char)) :
    List Placed :=
  ((lines.takeWhile fun line => !Directive.endsTest line).zipIdx number).filterMap
    fun (line, number) => placed? options line number

theorem testLines_eq (source : String) : testLines source =
    ((sourceLines source.toList).takeWhile fun line => !Directive.endsTest line).zipIdx 1 := by
  have same : (fun line : List Char => !decide ("// nontest".toList <:+: line)) =
      fun line => !Directive.endsTest line := by
    funext line
    congr 1
    rw [Bool.eq_iff_iff, decide_eq_true_iff, Directive.endsTest, occurs_iff]
  rw [testLines, same]

theorem directives_eq_placedFrom (options : ReadingOptions) (source : String) :
    directives options source = placedFrom options 1 (sourceLines source.toList) := by
  rw [directives, testLines_eq]
  rfl

theorem placedFrom_cons (options : ReadingOptions) (number : Nat) (lines : List (List Char))
    {line : List Char} (goes_on : Directive.endsTest line = false) :
    placedFrom options number (line :: lines) =
      (placed? options line number).toList ++ placedFrom options (number + 1) lines := by
  unfold placedFrom
  rw [List.takeWhile_cons_of_pos (by simp [goes_on]), List.zipIdx_cons, List.filterMap_cons]
  cases found : placed? options line number <;> simp [found]

theorem recordLine_of_none {options : ReadingOptions} {line : List Char} {number : Nat}
    (h : placed? options line number = none) (e : Expectations) :
    recordLine options number e line = e := by
  unfold recordLine
  cases recognised : Directive.recognise line with
  | none => rfl
  | some d =>
    have : d.applies options.language = false := by
      simpa [placed?, recognised, Option.filter] using h
    simp [Expectations.record, this]

theorem recordLine_of_some {options : ReadingOptions} {line : List Char} {number : Nat}
    {p : Placed} (h : placed? options line number = some p) (e : Expectations) :
    p.line = number ∧ recordLine options number e line = extend options.exitCodes e p := by
  obtain ⟨d, counts, rfl⟩ := Option.map_eq_some_iff.mp h
  obtain ⟨recognised, applies⟩ := Option.filter_eq_some_iff.mp counts
  refine ⟨rfl, ?_⟩
  simp only [recordLine, recognised, Expectations.record, applies, if_true]
  rfl

/-- Reading goes on from the sum of the directives so far to that of all directives. -/
theorem recordLines_eq (options : ReadingOptions) (number : Nat) (ps : List Placed)
    (lines : List (List Char)) (calm : conflictLine ps = none)
    (before : ∀ p ∈ ps, p.line < number) :
    recordLines options number (sum options.exitCodes ps) lines =
      resolve options.exitCodes (ps ++ placedFrom options number lines) := by
  induction lines generalizing number ps with
  | nil => simp [recordLines, resolve, placedFrom, calm]
  | cons line lines ih =>
    unfold recordLines
    split
    · next ends => simp [resolve, placedFrom, ends, calm]
    · next goes_on =>
      rw [placedFrom_cons options number lines (Bool.not_eq_true _ ▸ goes_on)]
      cases found : placed? options line number with
      | none =>
        have quiet : (sum options.exitCodes ps).isConflicting = false := by
          rw [isConflicting_of_views ps rfl rfl, calm]
          rfl
        simp only [recordLine_of_none found, quiet, Bool.false_eq_true, if_false]
        exact ih (number + 1) ps calm fun p mem => Nat.lt_succ_of_lt (before p mem)
      | some p =>
        obtain ⟨rfl, recorded⟩ := recordLine_of_some found (sum options.exitCodes ps)
        have conflicting := isConflicting_of_views (ps ++ [p])
          (errors_extend options.exitCodes ps p) (runtimeError_extend options.exitCodes ps p)
        rw [Option.toList_some, ← List.append_assoc]
        simp only [recorded, conflicting]
        cases conflict : conflictLine (ps ++ [p]) with
        | some line =>
          rw [conflictLine_of_append calm before conflict] at conflict
          simp only [resolve, conflictLine_append conflict, Option.isSome_some, if_true]
        | none =>
          rw [extend_sum options.exitCodes ps p conflict]
          refine ih (p.line + 1) (ps ++ [p]) conflict fun q mem => ?_
          rcases List.mem_append.mp mem with mem | mem
          · exact Nat.lt_succ_of_lt (before q mem)
          · rw [List.mem_singleton.mp mem]
            exact Nat.lt_succ_self _

theorem expectations_eq_resolve (options : ReadingOptions) (source : String) :
    expectations options source = resolve options.exitCodes (directives options source) := by
  rw [directives_eq_placedFrom]
  exact recordLines_eq options 1 [] _ rfl (by simp)

/-- A fixture that is read has no conflict, and expects the sum of its directives. -/
theorem eq_sum_of_read {options : ReadingOptions} {path source : String} {e : Expectations}
    (h : read options path source = .ok e) :
    conflictLine (directives options source) = none ∧
      e = sum options.exitCodes (directives options source) := by
  rw [read, expectations_eq_resolve, resolve] at h
  cases conflict : conflictLine (directives options source) with
  | some number => simp [conflict] at h
  | none =>
    rw [conflict] at h
    exact ⟨rfl, (Except.ok.inj h).symm⟩

theorem exists_line_of_mem_directives {options : ReadingOptions} {source : String} {p : Placed}
    (h : p ∈ directives options source) :
    ∃ line ∈ sourceLines source.toList, Directive.recognise line = some p.directive := by
  obtain ⟨⟨line, number⟩, mem, found⟩ := List.mem_filterMap.mp h
  obtain ⟨d, counts, rfl⟩ := Option.map_eq_some_iff.mp found
  have kept := (List.mem_zipIdx mem).2.2
  refine ⟨line, ?_, (Option.filter_eq_some_iff.mp counts).1⟩
  rw [kept]
  exact (List.takeWhile_subset _) (List.getElem_mem _)

/-- Reading a fixture line by line gives what its directives come to as a whole. -/
theorem read_eq_readWhole (options : ReadingOptions) (path source : String) :
    read options path source = readWhole options path source := by
  rw [read, expectations_eq_resolve]
  unfold resolve readWhole
  cases conflictLine (directives options source) <;> rfl

end Conformance.Fixture

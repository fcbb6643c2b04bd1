import Conformance.Verdict
import Conformance.Proofs.Diagnostic
import Mathlib.Data.List.Basic

/-! # Reading an error stream for compile errors

The scan keeps three things while it reads: a capped list of failures, the errors it found, and a
count that is not capped. After any lines they are the first surprises, the expected errors among
the reports, and the number of surprises. The failures of the check follow in closed form.
-/

namespace Conformance.Verdict

open Conformance.Text

/-- A line that is neither blank nor reports an expected error. -/
def isSurprise (errors : List String) (line : List Char) : Bool :=
  match reported line with
  | some error => error ∉ errors
  | none => !line.isEmpty

/-- The surprises among lines. -/
def surprising (errors : List String) (lines : List (List Char)) : List (List Char) :=
  lines.filter (isSurprise errors)

/-- The expected errors that no line reports. -/
def missing (errors : List String) (lines : List (List Char)) : List String :=
  errors.filter fun error => !(lines.any fun line => reported line = some error)

theorem reported_eq_some_iff {line : List Char} {error : String} : reported line = some error ↔
    ∃ d, Diagnostic.recognise line = some d ∧ d.normalForm = error :=
  Option.map_eq_some_iff

theorem isSurprise_eq_false_iff {errors : List String} {line : List Char} :
    isSurprise errors line = false ↔
      (line ≠ [] → ∃ d, Diagnostic.recognise line = some d ∧ d.normalForm ∈ errors) := by
  unfold isSurprise reported
  cases recognised : Diagnostic.recognise line with
  | some d =>
    have ne : line ≠ [] := by
      rintro rfl
      cases recognised
    simp [ne]
  | none => simp

theorem take_append_singleton {α : Type} (l : List α) (a : α) (cap : Nat) :
    (l ++ [a]).take cap = if l.length < cap then l.take cap ++ [a] else l.take cap := by
  rw [List.take_append]
  split
  · next room =>
    obtain ⟨n, hn⟩ := Nat.exists_eq_add_of_lt room
    rw [hn, show l.length + n + 1 - l.length = n + 1 by omega, List.take_succ_cons, List.take_nil]
  · next full => rw [Nat.sub_eq_zero_of_le (by omega), List.take_zero, List.append_nil]

namespace Scan

/-- What a scan holds after it has read lines. -/
structure HasRead (errors : List String) (lines : List (List Char)) (s : Scan) : Prop where
  failures : s.failures =
    ((surprising errors lines).take Failure.maxReportedLines).map surpriseFailure
  surprises : s.surprises = (surprising errors lines).length
  found : ∀ error, error ∈ s.found ↔
    error ∈ errors ∧ ∃ line ∈ lines, reported line = some error

variable {errors : List String} {lines : List (List Char)} {s : Scan} {line : List Char}

theorem hasRead_nil (errors : List String) : HasRead errors [] {} := by
  constructor <;> simp [surprising]

theorem surprising_append_of_pos (h : isSurprise errors line = true) :
    surprising errors (lines ++ [line]) = surprising errors lines ++ [line] := by
  simp [surprising, List.filter_append, h]

theorem surprising_append_of_neg (h : isSurprise errors line = false) :
    surprising errors (lines ++ [line]) = surprising errors lines := by
  simp [surprising, List.filter_append, h]

theorem exists_reported_append {error : String} :
    (∃ l ∈ lines ++ [line], reported l = some error) ↔
      (∃ l ∈ lines, reported l = some error) ∨ reported line = some error := by
  simp [or_and_right, exists_or]

theorem HasRead.surprise (h : HasRead errors lines s) (new : isSurprise errors line = true) :
    HasRead errors (lines ++ [line]) (s.surprise line) := by
  constructor
  · rw [surprising_append_of_pos new, take_append_singleton]
    simp only [Scan.surprise, h.failures, h.surprises]
    split <;> simp
  · rw [surprising_append_of_pos new, Scan.surprise, h.surprises]
    simp
  · intro error
    have unexpected : error ∈ errors → reported line ≠ some error := by
      intro mem eq
      simp [isSurprise, eq, mem] at new
    rw [Scan.surprise, h.found, exists_reported_append]
    constructor
    · rintro ⟨mem, before⟩
      exact ⟨mem, Or.inl before⟩
    · rintro ⟨mem, before | now⟩
      · exact ⟨mem, before⟩
      · exact absurd now (unexpected mem)

/-- A line that is no surprise changes at most what is found. -/
theorem HasRead.quiet {found : List String} (h : HasRead errors lines s)
    (expected : isSurprise errors line = false)
    (all : ∀ error, error ∈ found ↔
      error ∈ errors ∧ ∃ l ∈ lines ++ [line], reported l = some error) :
    HasRead errors (lines ++ [line]) { s with found := found } := by
  constructor
  · rw [surprising_append_of_neg expected]
    exact h.failures
  · rw [surprising_append_of_neg expected]
    exact h.surprises
  · exact all

theorem HasRead.find {error : String} (h : HasRead errors lines s)
    (eq : reported line = some error) (mem : error ∈ errors) :
    HasRead errors (lines ++ [line]) { s with found := s.found.insert error } := by
  refine h.quiet (by simp [isSurprise, eq, mem]) fun other => ?_
  rw [List.mem_insert_iff, h.found, exists_reported_append, eq]
  constructor
  · rintro (rfl | ⟨known, before⟩)
    · exact ⟨mem, Or.inr rfl⟩
    · exact ⟨known, Or.inl before⟩
  · rintro ⟨known, before | now⟩
    · exact Or.inr ⟨known, before⟩
    · exact Or.inl (Option.some.inj now).symm

theorem HasRead.skip (h : HasRead errors lines s) (eq : reported line = none)
    (blank : line.isEmpty = true) : HasRead errors (lines ++ [line]) s := by
  refine h.quiet (by simp [isSurprise, eq, blank]) fun error => ?_
  rw [h.found, exists_reported_append, eq]
  simp

theorem HasRead.next (h : HasRead errors lines s) (line : List Char) :
    HasRead errors (lines ++ [line]) (s.next errors line) := by
  unfold Scan.next
  split
  · next error eq =>
    split
    · next mem => exact h.find eq mem
    · next unknown => exact h.surprise (by simp [isSurprise, eq, unknown])
  · next eq =>
    split
    · next blank => exact h.skip eq blank
    · next text => exact h.surprise (by simpa [isSurprise, eq] using text)

theorem hasRead_ofLines (errors : List String) (lines : List (List Char)) :
    HasRead errors lines (ofLines errors lines) := by
  induction lines using List.reverseRecOn with
  | nil => exact hasRead_nil errors
  | append_singleton lines line ih =>
    unfold ofLines at ih ⊢
    rw [List.foldl_append]
    exact ih.next line

end Scan

/-- The failures for compile errors: the first surprises, a mark for the others, and the expected
errors that are missing. -/
theorem compileFailures_eq (errors : List String) (pieces : List (List Char)) :
    compileFailures errors pieces =
      ((surprising errors (dropBlankTail pieces)).take Failure.maxReportedLines).map
          surpriseFailure ++
        (if (surprising errors (dropBlankTail pieces)).length > Failure.maxReportedLines then
          [{ message := Failure.truncationMark
              ((surprising errors (dropBlankTail pieces)).length - Failure.maxReportedLines) }]
        else []) ++
        (missing errors (dropBlankTail pieces)).map fun error =>
          { message := "Missing expected error: " ++ error } := by
  have scan := Scan.hasRead_ofLines errors (dropBlankTail pieces)
  simp only [compileFailures, scan.failures, scan.surprises]
  congr 2
  apply List.filter_congr
  intro error mem
  have := scan.found error
  by_cases reports : ∃ line ∈ dropBlankTail pieces, reported line = some error
  · have found := this.mpr ⟨mem, reports⟩
    simpa [found] using reports
  · have unfound : error ∉ (Scan.ofLines errors (dropBlankTail pieces)).found :=
      fun found => reports (this.mp found).2
    simpa [unfound] using reports

end Conformance.Verdict

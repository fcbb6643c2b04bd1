import Conformance.Report.Document
import Conformance.Proofs.Json.Printing
import Conformance.Proofs.Json.Reading

/-! # Reading reports

The document of a report is JSON, and a report is read back from it as it was written: the status of
a fixture tells its outcome, and a failure without a context has no lines.
-/

namespace Conformance

/-! ## From values to reports -/

namespace Json

def stringAt? (name : String) (v : Json) : Option String := (v.get? name).bind string?

def naturalAt? (name : String) (v : Json) : Option Nat :=
  ((v.get? name).bind integer?).bind Int.toNat?

def listAt? {α : Type} (name : String) (read : Json → Option α) (v : Json) : Option (List α) :=
  ((v.get? name).bind items?).bind fun items => items.mapM read

end Json

def Failure.ofJson? (v : Json) : Option Failure := do
  let message ← v.stringAt? "message"
  let context ← if (v.get? "context").isNone then some [] else v.listAt? "context" Json.string?
  return ⟨message, context⟩

def Outcome.ofJson? (v : Json) : Option Outcome := do
  let status ← v.stringAt? "status"
  if status = "passed" then return .passed
  else if status = "failed" then return .failed (← v.listAt? "failures" Failure.ofJson?)
  else if status = "error" then return .error (← v.stringAt? "kind") (← v.stringAt? "message")
  else if status = "skipped" then return .skipped (← v.stringAt? "reason")
  else none

def FixtureReport.ofJson? (v : Json) : Option FixtureReport :=
  return ⟨← v.stringAt? "path", ← Outcome.ofJson? v⟩

def SuiteReport.ofJson? (v : Json) : Option SuiteReport := do
  let tally : Tally := ⟨← v.naturalAt? "passed", ← v.naturalAt? "failed",
    ← v.naturalAt? "errored", ← v.naturalAt? "skipped"⟩
  return ⟨← v.stringAt? "name", tally, ← v.listAt? "fixtures" FixtureReport.ofJson?⟩

def RunReport.ofJson? (v : Json) : Option RunReport :=
  return ⟨← v.listAt? "suites" SuiteReport.ofJson?⟩

/-! ## The values of reports -/

theorem mapM_map_eq_some {α β : Type} {write : α → β} {read : β → Option α}
    (back : ∀ a, read (write a) = some a) (as : List α) : (as.map write).mapM read = some as := by
  induction as with
  | nil => rfl
  | cons a as ih => simp [back, ih]

theorem Json.listAt?_eq_some {α : Type} {name : String} {v : Json} {as : List α} {write : α → Json}
    {read : Json → Option α} (found : v.get? name = some (.array (as.map write)))
    (back : ∀ a, read (write a) = some a) : v.listAt? name read = some as := by
  rw [listAt?, found]
  exact mapM_map_eq_some back as

theorem Failure.ofJson?_toJson (f : Failure) : ofJson? f.toJson = some f := by
  obtain ⟨message, context⟩ := f
  rcases context with _ | ⟨line, context⟩
  · rfl
  · have found : (toJson ⟨message, line :: context⟩).get? "context" =
        some (.array ((line :: context).map .string)) := rfl
    have lines : Json.listAt? "context" Json.string? _ = some (line :: context) :=
      Json.listAt?_eq_some found fun _ => rfl
    simp only [ofJson?, lines, found]
    rfl

theorem FixtureReport.ofJson?_toJson (f : FixtureReport) : ofJson? f.toJson = some f := by
  obtain ⟨path, outcome⟩ := f
  cases outcome with
  | failed failures =>
    have found : (toJson ⟨path, .failed failures⟩).get? "failures" =
        some (.array (failures.map Failure.toJson)) := rfl
    have read := Json.listAt?_eq_some found Failure.ofJson?_toJson
    simp only [ofJson?, Outcome.ofJson?, read]
    rfl
  | passed | error | skipped => rfl

theorem SuiteReport.ofJson?_toJson (s : SuiteReport) : ofJson? s.toJson = some s := by
  have found : s.toJson.get? "fixtures" = some (.array (s.fixtures.map FixtureReport.toJson)) := rfl
  have read := Json.listAt?_eq_some found FixtureReport.ofJson?_toJson
  simp only [ofJson?, read]
  rfl

theorem RunReport.ofJson?_toJson (r : RunReport) : ofJson? r.toJson = some r := by
  have found : r.toJson.get? "suites" = some (.array (r.suites.map SuiteReport.toJson)) := rfl
  have read := Json.listAt?_eq_some found SuiteReport.ofJson?_toJson
  simp only [ofJson?, read]
  rfl

theorem Json.IsIntegral.map {α : Type} {write : α → Json} (integral : ∀ a, (write a).IsIntegral)
    (as : List α) : IsIntegral (.array (as.map write)) :=
  .array (List.forall_mem_map.mpr fun a _ => integral a)

theorem Failure.isIntegral_toJson (f : Failure) : f.toJson.IsIntegral := by
  have lines : (Json.array (f.context.map .string)).IsIntegral := .map .string f.context
  refine .object ?_
  split
  · simpa using Json.IsIntegral.string f.message
  · simpa using ⟨Json.IsIntegral.string f.message, lines⟩

theorem FixtureReport.isIntegral_toJson (f : FixtureReport) : f.toJson.IsIntegral := by
  obtain ⟨path, outcome⟩ := f
  refine .object ?_
  cases outcome with
  | failed failures =>
    have each : (Json.array (failures.map Failure.toJson)).IsIntegral :=
      .map Failure.isIntegral_toJson failures
    simp [Outcome.fields, each, Json.IsIntegral.string]
  | passed | error | skipped => simp [Outcome.fields, Json.IsIntegral.string]

theorem SuiteReport.isIntegral_toJson (s : SuiteReport) : s.toJson.IsIntegral := by
  have each : (Json.array (s.fixtures.map FixtureReport.toJson)).IsIntegral :=
    .map FixtureReport.isIntegral_toJson s.fixtures
  refine .object ?_
  simp [each, Json.IsIntegral.string, Json.IsIntegral.integer]

theorem RunReport.isIntegral_toJson (r : RunReport) : r.toJson.IsIntegral := by
  have each : (Json.array (r.suites.map SuiteReport.toJson)).IsIntegral :=
    .map SuiteReport.isIntegral_toJson r.suites
  refine .object ?_
  simpa using each

/-! ## The document -/

/-- A reader of JSON: of every document it reads the value. -/
structure Json.Reader where
  read : String → Option Json
  reads : ∀ text v, IsDocument text v → read text = some v

def Json.Reader.own : Json.Reader where
  read := parse?
  reads := fun _ _ => parse?_of_isDocument

theorem RunReport.toList_document (r : RunReport) :
    r.document.toList = Json.pretty 0 r.toJson ++ ['\n'] := String.toList_ofList

theorem RunReport.isDocument_document (r : RunReport) : Json.IsDocument r.document r.toJson :=
  Json.isDocument_document r.isIntegral_toJson

theorem RunReport.read_document (reader : Json.Reader) (r : RunReport) :
    (reader.read r.document).bind ofJson? = some r := by
  rw [reader.reads _ _ r.isDocument_document]
  exact r.ofJson?_toJson

/-- The document of a report is a JSON object and one line end. Every reader of JSON gets the report
back from it, so that no two reports have the same document. -/
theorem RunReport.document_lossless (r : RunReport) :
    (∃ spelling, r.document.toList = spelling ++ ['\n'] ∧ Json.Spells spelling r.toJson ∧
        spelling.getLast? = some '\x7d') ∧
      (∀ reader : Json.Reader, (reader.read r.document).bind ofJson? = some r) ∧
      ∀ r', RunReport.document r' = r.document ↔ r' = r := by
  refine ⟨⟨_, r.toList_document, Json.spells_pretty r.isIntegral_toJson 0, ?_⟩,
    fun reader => r.read_document reader, fun r' => ⟨fun same => ?_, fun same => by rw [same]⟩⟩
  · exact (Json.spells_pretty r.isIntegral_toJson 0).getLast?_object
  · have back := r'.read_document .own
    rw [same, r.read_document .own] at back
    exact (Option.some.inj back).symm

end Conformance

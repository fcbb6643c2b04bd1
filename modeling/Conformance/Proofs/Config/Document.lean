import Conformance.Config.Document
import Conformance.Proofs.Config.Record
import Conformance.Proofs.Json.Printing
import Conformance.Proofs.Json.Reading

/-! # Forms of a configuration

The object of a configuration can be written in many ways: at each level its fields stand in any
order, and those whose value is the default may be left out. Every such form is read as the
configuration.
-/

namespace Conformance

open ValueFormat

/-! ## Forms -/

namespace Json

/-- The fields of an object in any order, each with a form of its value. A field is left out only if
its value is the default. -/
structure Abridges (form : String → Json → Json → Prop) (defaults full : Json)
    (fields : List (String × Json)) : Prop where
  distinct : (fields.map Prod.fst).Nodup
  written : ∀ field ∈ fields, ∃ u, full.get? field.1 = some u ∧ form field.1 u field.2
  complete : ∀ name u, full.get? name = some u →
    name ∈ fields.map Prod.fst ∨ defaults.get? name = some u

/-- The forms of an object, for given forms of the values in it. -/
def IsObjectForm (form : String → Json → Json → Prop) (defaults full v : Json) : Prop :=
  ∃ fields, v = .object fields ∧ Abridges form defaults full fields

end Json

def ExitCodes.IsForm : Json → Json → Prop :=
  Json.IsObjectForm (fun _ => Eq) ({} : ExitCodes).toJson

def SuiteConfig.defaults : Json :=
  .object [("args", .array []), ("language", .null), ("root", .string "tests"),
    ("per_directory", .bool false)]

def SuiteConfig.IsForm : Json → Json → Prop :=
  Json.IsObjectForm (fun _ => Eq) SuiteConfig.defaults

/-- The forms of a value in the object of a configuration, for the name it stands under. -/
inductive Config.IsFieldForm (name : String) : Json → Json → Prop
  | exitCodes {u v : Json} : name = "exit_codes" → ExitCodes.IsForm u v → IsFieldForm name u v
  | suites {us vs : List Json} : name = "suites" → List.Forall₂ SuiteConfig.IsForm us vs →
      IsFieldForm name (.array us) (.array vs)
  | other (v : Json) : name ≠ "exit_codes" ∧ name ≠ "suites" → IsFieldForm name v v

def Config.IsForm : Json → Json → Prop :=
  Json.IsObjectForm Config.IsFieldForm ({} : Config).toJson

theorem Json.mem_of_get?_object {fields : List (String × Json)} {name : String} {u : Json}
    (found : (Json.object fields).get? name = some u) : (name, u) ∈ fields := by
  obtain ⟨⟨other, v⟩, same, rfl⟩ := Option.map_eq_some_iff.mp found
  have named := List.find?_some same
  obtain rfl : other = name := of_decide_eq_true named
  exact List.mem_of_find?_eq_some same

namespace Json.Abridges

variable {form : String → Json → Json → Prop} {defaults full : Json}
  {fields : List (String × Json)} {names : List String} {name : String} {u : Json} {α : Type}
  {default a : α} {read : Json → Option α}

theorem isRecord (h : Abridges form defaults full fields) :
    reading.IsRecord names (.object fields) fields :=
  ⟨rfl, once_of_nodup h.distinct⟩

theorem isKnown {given : List (String × Json)} (h : Abridges form defaults (.object given) fields)
    (listed : given.map Prod.fst = names) : IsKnown names fields := by
  intro field among
  obtain ⟨u, found, -⟩ := h.written field among
  rw [← listed]
  exact List.mem_map.mpr ⟨_, mem_of_get?_object found, rfl⟩

theorem reads (h : Abridges form defaults full fields) (listed : full.get? name = some u)
    (forms : ∀ v, form name u v → read v = some a) :
    ∀ v, (name, v) ∈ fields → read v = some a := by
  intro v given
  obtain ⟨value, found, isForm⟩ := h.written (name, v) given
  obtain rfl : value = u := Option.some.inj (found.symm.trans listed)
  exact forms v isForm

theorem gives (h : Abridges form defaults full fields) (listed : full.get? name = some u)
    (forms : ∀ v, form name u v → read v = some a) (self : form name u u)
    (initial : (defaults.get? name).bind read = some default) :
    Gives fields name default read a where
  given := h.reads listed forms
  absent := by
    intro absent
    rcases h.complete name u listed with given | isDefault
    · obtain ⟨⟨_, v⟩, among, rfl⟩ := List.mem_map.mp given
      exact absurd among (absent v)
    · rw [isDefault, Option.bind_some, forms u self] at initial
      exact Option.some.inj initial

theorem requires (h : Abridges form defaults full fields) (listed : full.get? name = some u)
    (forms : ∀ v, form name u v → read v = some a) (needed : defaults.get? name = none) :
    Requires fields name read a := by
  rcases h.complete name u listed with given | isDefault
  · obtain ⟨⟨_, v⟩, among, rfl⟩ := List.mem_map.mp given
    exact ⟨v, among, h.reads listed forms v among⟩
  · cases needed.symm.trans isDefault

/-! Values that have no other form -/

theorem gives_same (h : Abridges (fun _ => Eq) defaults full fields)
    (listed : full.get? name = some u) (answer : read u = some a)
    (initial : (defaults.get? name).bind read = some default) :
    Gives fields name default read a :=
  h.gives listed (fun _ same => same ▸ answer) rfl initial

theorem requires_same (h : Abridges (fun _ => Eq) defaults full fields)
    (listed : full.get? name = some u) (answer : read u = some a)
    (needed : defaults.get? name = none) : Requires fields name read a :=
  h.requires listed (fun _ same => same ▸ answer) needed

end Json.Abridges

/-! ## Reading forms -/

structure ExitCodes.Fits (codes : ExitCodes) : Prop where
  compileError : -2147483648 ≤ codes.compileError ∧ codes.compileError ≤ 2147483647
  runtimeError : -2147483648 ≤ codes.runtimeError ∧ codes.runtimeError ≤ 2147483647

/-- A configuration whose numbers fit: 32 bits for exit codes, 64 bits for the others. -/
structure Config.Fits (c : Config) : Prop where
  exitCodes : c.exitCodes.Fits
  timeoutSecs : c.timeoutSecs ≤ maxCounter
  jobs : c.jobs ≤ maxCounter

namespace Json

theorem exitCode_integer {code : Int} (fits : -2147483648 ≤ code ∧ code ≤ 2147483647) :
    reading.exitCode (.integer code) = some code := by
  simp [exitCode, reading, integer?, Option.filter, fits]

theorem counter_integer {n : Nat} (small : n ≤ maxCounter) :
    reading.counter (.integer n) = some n := by
  have natural : reading.natural (.integer n) = some n := rfl
  simp [counter, natural, Option.filter, small]

theorem texts_array (texts : List String) :
    reading.texts (.array (texts.map .string)) = some texts := by
  show (texts.map Json.string).mapM Json.string? = some texts
  induction texts with
  | nil => rfl
  | cons text texts ih => simp [ih, string?]

end Json

theorem ExitCodes.read_form {codes : ExitCodes} {v : Json} (fits : codes.Fits)
    (form : IsForm codes.toJson v) : Json.reading.exitCodes v = some codes := by
  obtain ⟨fields, rfl, abridges⟩ := form
  have compileError := Json.exitCode_integer fits.compileError
  have runtimeError := Json.exitCode_integer fits.runtimeError
  exact exitCodes_eq_some_iff.mpr ⟨fields, abridges.isRecord,
    abridges.gives_same rfl compileError rfl, abridges.gives_same rfl runtimeError rfl⟩

theorem SuiteConfig.read_form {s : SuiteConfig} {v : Json} (form : IsForm s.toJson v) :
    Json.reading.suite v = some s := by
  obtain ⟨fields, rfl, abridges⟩ := form
  refine suite_eq_some_iff.mpr ⟨fields, abridges.isRecord, abridges.isKnown rfl,
    abridges.requires_same rfl rfl rfl, abridges.requires_same rfl rfl rfl,
    abridges.gives_same rfl (Json.texts_array s.args) rfl, abridges.gives_same rfl ?language rfl,
    abridges.gives_same rfl rfl rfl, abridges.gives_same rfl rfl rfl⟩
  case language => cases s.language <;> rfl

theorem SuiteConfig.mapM_read_forms {suites : List SuiteConfig} {vs : List Json}
    (forms : List.Forall₂ IsForm (suites.map toJson) vs) :
    vs.mapM Json.reading.suite = some suites := by
  induction suites generalizing vs with
  | nil =>
    cases forms
    rfl
  | cons s suites ih =>
    obtain _ | ⟨first, others⟩ := forms
    simp [read_form first, ih others]

/-! ## The object itself -/

theorem Json.isObjectForm_of_fields {form : String → Json → Json → Prop} {defaults : Json}
    {full fields : List (String × Json)} (distinct : (fields.map Prod.fst).Nodup)
    (written : ∀ field ∈ fields, ∃ u, (object full).get? field.1 = some u ∧ form field.1 u field.2)
    (kept : ∀ field ∈ full, field.1 ∈ fields.map Prod.fst ∨ defaults.get? field.1 = some field.2) :
    IsObjectForm form defaults (.object full) (.object fields) := by
  refine ⟨fields, rfl, distinct, written, ?_⟩
  intro name u found
  exact kept (name, u) (mem_of_get?_object found)

theorem Json.isObjectForm_refl {form : String → Json → Json → Prop} {defaults : Json}
    {fields : List (String × Json)} (distinct : (fields.map Prod.fst).Nodup)
    (self : ∀ field ∈ fields, form field.1 field.2 field.2) :
    IsObjectForm form defaults (.object fields) (.object fields) := by
  refine isObjectForm_of_fields distinct ?_ fun field given => .inl (List.mem_map_of_mem given)
  rintro ⟨name, v⟩ given
  have once : Once fields [name] := once_of_nodup distinct
  have found := find?_of_mem (once name (List.mem_singleton.mpr rfl)) given
  exact ⟨v, congrArg (Option.map Prod.snd) found, self _ given⟩

theorem ExitCodes.isForm_toJson (codes : ExitCodes) : IsForm codes.toJson codes.toJson :=
  Json.isObjectForm_refl (show exitCodeNames.Nodup by decide) fun _ _ => rfl

theorem SuiteConfig.isForm_toJson (s : SuiteConfig) : IsForm s.toJson s.toJson :=
  Json.isObjectForm_refl (show suiteNames.Nodup by decide) fun _ _ => rfl

theorem Config.isFieldForm_suites (suites : List SuiteConfig) :
    IsFieldForm "suites" (.array (suites.map SuiteConfig.toJson))
      (.array (suites.map SuiteConfig.toJson)) := by
  refine .suites rfl ?_
  rw [List.forall₂_map_left_iff, List.forall₂_map_right_iff, List.forall₂_same]
  exact fun s _ => s.isForm_toJson

theorem Config.isForm_toJson (c : Config) : IsForm c.toJson c.toJson := by
  refine Json.isObjectForm_refl (show configNames.Nodup by decide) ?_
  simp only [List.forall_mem_cons]
  exact ⟨.exitCodes rfl c.exitCodes.isForm_toJson, .other _ (by decide), .other _ (by decide),
    .other _ (by decide), .other _ (by decide), isFieldForm_suites c.suites, nofun⟩

/-! ## Reading a configuration back -/

theorem Config.IsFieldForm.eq {name : String} {u v : Json} (form : IsFieldForm name u v)
    (flat : name ≠ "exit_codes" ∧ name ≠ "suites") : u = v := by
  cases form with
  | exitCodes named _ => exact absurd named flat.1
  | suites named _ => exact absurd named flat.2
  | other _ _ => rfl

theorem Config.IsFieldForm.exitCodes_form {u v : Json} (form : IsFieldForm "exit_codes" u v) :
    ExitCodes.IsForm u v := by
  cases form with
  | exitCodes _ form => exact form
  | suites named _ => exact absurd named (by decide)
  | other _ flat => exact absurd rfl flat.1

theorem Config.IsFieldForm.exists_suites {us : List Json} {v : Json}
    (form : IsFieldForm "suites" (.array us) v) :
    ∃ vs, v = .array vs ∧ List.Forall₂ SuiteConfig.IsForm us vs := by
  cases form with
  | exitCodes named _ => exact absurd named (by decide)
  | suites _ forms => exact ⟨_, rfl, forms⟩
  | other _ flat => exact absurd rfl flat.2

theorem Config.read_form {c : Config} {v : Json} (fits : c.Fits) (form : IsForm c.toJson v) :
    ofJson? v = some c := by
  obtain ⟨fields, rfl, abridges⟩ := form
  have plain {name : String} (flat : name ≠ "exit_codes" ∧ name ≠ "suites") {u : Json} {α : Type}
      {default a : α} {read : Json → Option α} (listed : c.toJson.get? name = some u)
      (answer : read u = some a)
      (initial : (({} : Config).toJson.get? name).bind read = some default) :
      Gives fields name default read a :=
    abridges.gives listed (fun v form => form.eq flat ▸ answer) (.other u flat) initial
  refine config_eq_some_iff.mpr ⟨fields, abridges.isRecord, abridges.isKnown rfl,
    ?exitCodes, plain (by decide) rfl (Json.counter_integer fits.timeoutSecs) rfl,
    plain (by decide) rfl (Json.counter_integer fits.jobs) rfl, plain (by decide) rfl rfl rfl,
    plain (by decide) rfl (Json.texts_array c.exclude) rfl, ?suites⟩
  case exitCodes =>
    refine abridges.gives rfl ?_ (.exitCodes rfl c.exitCodes.isForm_toJson) rfl
    exact fun v form => c.exitCodes.read_form fits.exitCodes form.exitCodes_form
  case suites =>
    refine abridges.gives rfl ?_ (isFieldForm_suites c.suites) rfl
    intro v form
    obtain ⟨vs, rfl, forms⟩ := form.exists_suites
    exact SuiteConfig.mapM_read_forms forms

/-- Every form of the object of a configuration is read as the configuration, from the value and
from every text that spells it; the object itself is one of its forms. -/
theorem Config.read_forms {c : Config} (fits : c.Fits) :
    IsForm c.toJson c.toJson ∧ ofJson? c.toJson = some c ∧
      ∀ v, IsForm c.toJson v → ofJson? v = some c ∧
        ∀ text, Json.IsDocument text v → (Json.parse? text).bind ofJson? = some c := by
  refine ⟨c.isForm_toJson, read_form fits c.isForm_toJson, fun v form => ?_⟩
  have read := read_form fits form
  refine ⟨read, fun text document => ?_⟩
  rw [Json.parse?_of_isDocument document]
  exact read

/-- A configuration whose object can be abridged at every level. -/
def Config.sparse : Config where
  exitCodes := { compileError := -1 }
  exclude := []
  suites := [{ name := "jlox", executable := "java", args := ["-jar"], language := some "java" }]

/-- The object of `Config.sparse` without its defaults, and in another order. -/
def Config.abridged : Json :=
  .object [("suites", .array [.object [("language", .string "java"), ("executable", .string "java"),
      ("name", .string "jlox"), ("args", .array [.string "-jar"])]]),
    ("exclude", .array []), ("exit_codes", .object [("compile_error", .integer (-1))])]

theorem Config.isForm_abridged : IsForm Config.sparse.toJson Config.abridged := by
  refine Json.isObjectForm_of_fields (by decide) ?_ ?_
  · simp only [List.forall_mem_cons]
    refine ⟨⟨_, rfl, .suites rfl (.cons ?suite .nil)⟩, ⟨_, rfl, .other _ (by decide)⟩,
      ⟨_, rfl, .exitCodes rfl ?exitCodes⟩, nofun⟩
    case suite =>
      refine Json.isObjectForm_of_fields (by decide) ?_ ?_
      · simp only [List.forall_mem_cons]
        exact ⟨⟨_, rfl, rfl⟩, ⟨_, rfl, rfl⟩, ⟨_, rfl, rfl⟩, ⟨_, rfl, rfl⟩, nofun⟩
      · simp only [List.forall_mem_cons]
        exact ⟨.inl (by decide), .inl (by decide), .inl (by decide), .inl (by decide), .inr rfl,
          .inr rfl, nofun⟩
    case exitCodes =>
      refine Json.isObjectForm_of_fields (by decide) ?_ ?_
      · simp only [List.forall_mem_cons]
        exact ⟨⟨_, rfl, rfl⟩, nofun⟩
      · simp only [List.forall_mem_cons]
        exact ⟨.inl (by decide), .inr rfl, nofun⟩
  · simp only [List.forall_mem_cons]
    exact ⟨.inl (by decide), .inr rfl, .inr rfl, .inr rfl, .inl (by decide), .inl (by decide),
      nofun⟩

theorem Config.read_forms_abridged :
    ∃ c : Config, c.Fits ∧ IsForm c.toJson Config.abridged ∧
      ofJson? Config.abridged = some c ∧
      (Json.parse? Config.abridged.document).bind ofJson? = some c := by
  have fits : Config.sparse.Fits := ⟨⟨by decide, by decide⟩, by decide, by decide⟩
  have integral : Config.abridged.IsIntegral := by
    refine .object ?_
    simp only [List.forall_mem_cons]
    refine ⟨.array ?suites, .array nofun, .object ?exitCodes, nofun⟩
    case suites =>
      refine List.forall_mem_singleton.mpr (.object ?_)
      simp only [List.forall_mem_cons]
      exact ⟨.string _, .string _, .string _, .array (List.forall_mem_singleton.mpr (.string _)),
        nofun⟩
    case exitCodes => exact List.forall_mem_singleton.mpr (.integer _)
  have forms := (read_forms fits).2.2 _ isForm_abridged
  exact ⟨_, fits, isForm_abridged, forms.1, forms.2 _ (Json.isDocument_document integral)⟩

end Conformance

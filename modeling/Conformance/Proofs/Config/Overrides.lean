import Conformance.Config.Source
import Conformance.Proofs.Config.Keys
import Conformance.Proofs.Config.Validation
import Conformance.Proofs.Text.Utf8
import Conformance.Proofs.Tree
import Conformance.Proofs.Work

/-! # Options and configuration files

What the options of a command line leave of the suites of a file. An interpreter replaces them all.
Without one a root is taken over by every suite, and all else stays as the file has it; a language
then changes nothing.
-/

namespace Conformance

def SuiteConfig.rerooted (root : Option String) (s : SuiteConfig) : SuiteConfig :=
  { s with root := root.getD s.root }

namespace Config

variable {c file : Config} {f : Files} {o : SuiteSource} {root language executable : String}

theorem validate_eq_ok_iff : file.validate = .ok c ↔ file.IsValid ∧ c = file := by
  obtain ⟨accepts, same, -⟩ := validate_exact file
  constructor
  · intro accepted
    exact ⟨isValid_of_validate accepted, same c accepted⟩
  · rintro ⟨valid, rfl⟩
    exact accepts.mpr valid

theorem resolve_eq_ok_iff : resolve f o = .ok c ↔
    ∃ file, discover f o.config = .ok file ∧ c = file.override o ∧ c.IsValid := by
  rw [resolve, bind_eq_ok_iff]
  refine exists_congr fun file => and_congr_right fun _ => ?_
  rw [validate_eq_ok_iff]
  constructor
  · rintro ⟨valid, rfl⟩
    exact ⟨rfl, valid⟩
  · rintro ⟨rfl, valid⟩
    exact ⟨valid, rfl⟩

/-! ## The suites with the options -/

theorem suites_override_of_interpreter (given : o.interpreter = some executable) :
    (file.override o).suites = [suiteOfOptions o executable] := by
  rw [override, given]

theorem override_of_none (absent : o.interpreter = none) :
    file.override o = { file with suites := file.suites.map (SuiteConfig.rerooted o.root) } := by
  rw [override, absent]
  cases o.root with
  | none =>
    have same : file.suites.map (SuiteConfig.rerooted none) = file.suites := List.map_id _
    rw [same]
  | some root => rfl

theorem override_suites (file : Config) (o : SuiteSource) :
    { file.override o with suites := file.suites } = file := by
  rw [override]
  split <;> rfl

theorem root_of_mem_override (given : o.root = some root) :
    ∀ s ∈ (file.override o).suites, s.root = root := by
  cases interpreter : o.interpreter with
  | some executable =>
    rw [suites_override_of_interpreter interpreter, List.forall_mem_singleton, suiteOfOptions,
      given]
    rfl
  | none =>
    rw [override_of_none interpreter, given]
    exact List.forall_mem_map.mpr fun s _ => rfl

/-- All suites have the language of the options if an interpreter is given too. Otherwise they have
the languages of the file. -/
theorem language_of_mem_override_iff (given : o.language = some language) :
    (∀ s ∈ (file.override o).suites, s.language = some language) ↔
      o.interpreter.isSome ∨ ∀ s ∈ file.suites, s.language = some language := by
  cases interpreter : o.interpreter with
  | some executable =>
    refine iff_of_true ?_ (.inl rfl)
    rw [suites_override_of_interpreter interpreter, List.forall_mem_singleton]
    exact given
  | none =>
    rw [override_of_none interpreter, or_iff_right nofun]
    exact List.forall_mem_map

/-! ## Which configurations are resolved -/

theorem isValid_override_iff (absent : o.interpreter = none) :
    (file.override o).IsValid ↔ file.IsValid := by
  have named : (∀ s ∈ file.suites.map (SuiteConfig.rerooted o.root), s.name ≠ "") ↔
      ∀ s ∈ file.suites, s.name ≠ "" := List.forall_mem_map
  have runnable : (∀ s ∈ file.suites.map (SuiteConfig.rerooted o.root), s.executable ≠ "") ↔
      ∀ s ∈ file.suites, s.executable ≠ "" := List.forall_mem_map
  have names : (file.suites.map (SuiteConfig.rerooted o.root)).map SuiteConfig.name =
      file.suites.map SuiteConfig.name := List.map_map
  rw [override_of_none absent]
  constructor
  · intro valid
    exact ⟨valid.extension, valid.exitCodes, named.mp valid.named, runnable.mp valid.runnable,
      names ▸ valid.distinct⟩
  · intro valid
    exact ⟨valid.extension, valid.exitCodes, named.mpr valid.named, runnable.mpr valid.runnable,
      names.symm ▸ valid.distinct⟩

theorem isValid_of_load {path : String} (loaded : load f path = .ok file) : file.IsValid := by
  unfold load at loaded
  split at loaded
  · obtain ⟨valid, rfl⟩ := validate_eq_ok_iff.mp loaded
    exact valid
  · cases loaded

theorem isValid_of_discover {path : Option String} (found : discover f path = .ok file) :
    file.IsValid := by
  cases path with
  | some path => exact isValid_of_load found
  | none =>
    rw [discover] at found
    split at found
    · exact isValid_of_load found
    · obtain rfl := Except.ok.inj found
      exact problem_eq_none_iff.mp rfl

/-- Options without an interpreter are never the reason why a configuration is refused. -/
theorem resolve_of_discover (absent : o.interpreter = none)
    (found : discover f o.config = .ok file) : resolve f o = .ok (file.override o) :=
  resolve_eq_ok_iff.mpr ⟨file, found, rfl, (isValid_override_iff absent).mpr
    (isValid_of_discover found)⟩

/-! ## What is overridden -/

/-- Of a file only the suites are overridden. A root is taken over by every suite, and without an
interpreter nothing else changes; a language is taken over with an interpreter only. -/
theorem resolve_overrides (resolved : resolve f o = .ok c) :
    ∃ file, discover f o.config = .ok file ∧ { c with suites := file.suites } = file ∧
      (∀ root, o.root = some root → ∀ s ∈ c.suites, s.root = root) ∧
      (o.interpreter = none → c.suites = file.suites.map (SuiteConfig.rerooted o.root)) ∧
      ∀ language, o.language = some language →
        ((∀ s ∈ c.suites, s.language = some language) ↔
          o.interpreter.isSome ∨ ∀ s ∈ file.suites, s.language = some language) := by
  obtain ⟨file, found, rfl, -⟩ := resolve_eq_ok_iff.mp resolved
  refine ⟨file, found, override_suites file o, ?_, ?_, ?_⟩
  · intro root given
    exact root_of_mem_override given
  · intro absent
    rw [override_of_none absent]
  · intro language given
    exact language_of_mem_override_iff given

/-! ## A file with one suite -/

def onlyConfig (text : String) : Files :=
  { top := .dir [(defaultFile, .file (Text.encode text.toList))] }

theorem at?_onlyConfig (text : String) :
    (onlyConfig text).at? defaultFile = some (.file (Text.encode text.toList)) :=
  Files.at?_only (by decide) (by decide) nofun

theorem text?_onlyConfig (text : String) : (onlyConfig text).text? defaultFile = some text := by
  have bytes : (onlyConfig text).bytes? defaultFile = some (Text.encode text.toList) := by
    rw [Files.bytes?, at?_onlyConfig]
  have read : Text.decode? (Text.encode text.toList) = some text.toList := by
    have all : text.toList.mapM some = some (text.toList.map id) := List.mapM_pure
    rw [Text.decode?, Text.utf8Parts_encode, List.mapM_map]
    simpa using all
  rw [Files.text?, bytes, Option.bind_some, read, Option.map_some, String.ofList_toList]

theorem ofYaml?_suite : ofYaml? "suites:\n- name: a\n  executable: sh\n" =
    some { suites := [{ name := "a", executable := "sh" }] } := by
  have tokens : Yaml.Token.ofText? "suites:\n- name: a\n  executable: sh\n".toList =
      some [.blockMappingStart, .key, .scalar .plain "suites", .value, .blockEntry,
        .blockMappingStart, .key, .scalar .plain "name", .value, .scalar .plain "a",
        .key, .scalar .plain "executable", .value, .scalar .plain "sh",
        .blockEnd, .blockEnd, .streamEnd] := rfl
  rw [ofYaml?_of_isDocument (isDocument_of_tokens (by decide) tokens rfl)]
  rfl

theorem discover_onlyConfig {text : String} (read : ofYaml? text = some file)
    (valid : file.IsValid) : discover (onlyConfig text) none = .ok file := by
  have isFile : (onlyConfig text).isFile defaultFile = true := by
    rw [Files.isFile, at?_onlyConfig]
  rw [discover, if_pos isFile, load, text?_onlyConfig, Option.bind_some, read]
  exact validate_eq_ok_iff.mpr ⟨valid, rfl⟩

/-- A language that no suite takes over. -/
theorem resolve_overrides_ignored : ∃ f o c, resolve f o = .ok c ∧ o.language = some "c" ∧
    ¬ ∀ s ∈ c.suites, s.language = some "c" := by
  have found := discover_onlyConfig ofYaml?_suite (problem_eq_none_iff.mp rfl)
  have resolved := resolve_of_discover (o := { language := some "c" }) rfl found
  obtain ⟨file, found', -, -, -, languages⟩ := resolve_overrides resolved
  obtain rfl := Except.ok.inj (found.symm.trans found')
  refine ⟨_, { language := some "c" }, _, resolved, rfl, ?_⟩
  rw [languages "c" rfl]
  simp

end Config

end Conformance

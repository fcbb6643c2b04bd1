import Mathlib.Data.List.Forall2
import Conformance.Suite
import Conformance.Proofs.Discovery
import Conformance.Proofs.Work

/-! # Expansion

What suites a configured suite becomes: one for its root, or one for each directory in the root.
-/

namespace Conformance

open Conformance.Tree (filesIn)

section Sequences

variable {ε α β : Type}

theorem bind_eq_error_iff {x : Except ε α} {f : α → Except ε β} {e : ε} :
    x >>= f = .error e ↔ x = .error e ∨ ∃ a, x = .ok a ∧ f a = .error e := by
  cases x with
  | error e => simp [Bind.bind, Except.bind]
  | ok a => simp [Bind.bind, Except.bind]

variable {f : α → Except ε β} {l : List α}

theorem mapM_eq_ok_iff {ys : List β} :
    l.mapM f = .ok ys ↔ List.Forall₂ (fun a y => f a = .ok y) l ys := by
  induction l generalizing ys with
  | nil => cases ys <;> simp [Pure.pure, Except.pure]
  | cons a l ih =>
    simp only [List.mapM_cons, bind_eq_ok_iff, Pure.pure, Except.pure, Except.ok.injEq, ih]
    constructor
    · rintro ⟨y, first, rest, others, rfl⟩
      exact .cons first others
    · rintro (_ | ⟨first, others⟩)
      exact ⟨_, first, _, others, rfl⟩

theorem exists_of_mem_of_mapM_eq_ok {ys : List β} (answered : l.mapM f = .ok ys) {y : β}
    (listed : y ∈ ys) : ∃ a ∈ l, f a = .ok y := by
  induction mapM_eq_ok_iff.mp answered with
  | nil => cases listed
  | @cons a z l ys first others ih =>
    rcases List.mem_cons.mp listed with rfl | later
    · exact ⟨a, List.mem_cons_self, first⟩
    · obtain ⟨b, among, step⟩ := ih (mapM_eq_ok_iff.mpr others) later
      exact ⟨b, List.mem_cons_of_mem a among, step⟩

theorem mapM_eq_ok_map_iff {ys : List β} {g : α → β} (agrees : ∀ a y, f a = .ok y → g a = y) :
    l.mapM f = .ok ys ↔ (∀ a ∈ l, f a = .ok (g a)) ∧ l.map g = ys := by
  rw [mapM_eq_ok_iff]
  constructor
  · intro answered
    have answers : List.Forall₂ (fun a y => g a = y) l ys := answered.imp agrees
    rw [← List.forall₂_map_left_iff, List.forall₂_eq_eq_eq] at answers
    subst answers
    rw [List.forall₂_map_right_iff, List.forall₂_same] at answered
    exact ⟨answered, rfl⟩
  · rintro ⟨steps, rfl⟩
    rw [List.forall₂_map_right_iff, List.forall₂_same]
    exact steps

theorem exists_of_mapM_eq_error {e : ε} (failed : l.mapM f = .error e) :
    ∃ a ∈ l, f a = .error e := by
  induction l with
  | nil => cases failed
  | cons a l ih =>
    rw [List.mapM_cons, bind_eq_error_iff] at failed
    rcases failed with first | ⟨y, -, failed⟩
    · exact ⟨a, List.mem_cons_self, first⟩
    · rcases bind_eq_error_iff.mp failed with others | ⟨_, -, last⟩
      · obtain ⟨b, listed, failed⟩ := ih others
        exact ⟨b, List.mem_cons_of_mem a listed, failed⟩
      · cases last

end Sequences

namespace Suite

variable {c : Config} {s : SuiteConfig} {f g : Files} {own : List Suite}
  {entries : List (String × Tree)}

theorem name_of_ofRoot {name root : String} {suite : Suite}
    (expanded : ofRoot c f s name root = .ok suite) : suite.name = name := by
  obtain ⟨found, -, same⟩ := bind_eq_ok_iff.mp expanded
  rw [← Except.ok.inj same]

theorem ofConfig_eq_nil_iff : ofConfig c f s = .ok [] ↔
    s.perDirectory = true ∧ Discovery.subdirectories f s.root = .ok [] := by
  cases split : s.perDirectory with
  | false =>
    simp [ofConfig, split, bind_eq_ok_iff, Pure.pure, Except.pure]
  | true =>
    simp [ofConfig, split, bind_eq_ok_iff, mapM_eq_ok_iff]

theorem interpreter_of_ofRoot {name root : String} {suite : Suite}
    (expanded : ofRoot c f s name root = .ok suite) :
    suite.interpreter = ⟨s.executable, s.args, c.timeout⟩ := by
  obtain ⟨found, -, same⟩ := bind_eq_ok_iff.mp expanded
  rw [← Except.ok.inj same]

theorem exists_ofRoot (expanded : ofConfig c f s = .ok own) {suite : Suite} (listed : suite ∈ own) :
    ∃ name root, ofRoot c f s name root = .ok suite ∧
      (name = s.name ∨ ∃ label, name = directoryName s.name label) := by
  unfold ofConfig at expanded
  split at expanded
  · obtain ⟨dirs, -, expanding⟩ := bind_eq_ok_iff.mp expanded
    obtain ⟨dir, -, found⟩ := exists_of_mem_of_mapM_eq_ok expanding listed
    exact ⟨_, dir, found, .inr ⟨_, rfl⟩⟩
  · obtain ⟨only, found, single⟩ := bind_eq_ok_iff.mp expanded
    obtain rfl : suite = only := by simpa [← Except.ok.inj single] using listed
    exact ⟨_, _, found, .inl rfl⟩

/-- The suites that a configured suite becomes, none where it cannot be expanded. -/
def expansion (c : Config) (f : Files) (s : SuiteConfig) : List Suite :=
  (ofConfig c f s).toOption.getD []

theorem expansion_eq (expanded : ofConfig c f s = .ok own) : expansion c f s = own := by
  rw [expansion, expanded]
  rfl

theorem allOf_eq_ok_iff {all : List Suite} : allOf c f = .ok all ↔
    (∀ s ∈ c.suites, ofConfig c f s = .ok (expansion c f s)) ∧
      c.suites.flatMap (expansion c f) = all := by
  have agrees : ∀ s own, ofConfig c f s = .ok own → expansion c f s = own :=
    fun _ _ => expansion_eq
  simp only [allOf, bind_eq_ok_iff, mapM_eq_ok_map_iff agrees, Pure.pure, Except.pure,
    Except.ok.injEq, List.flatMap_def]
  constructor
  · rintro ⟨groups, ⟨expands, rfl⟩, same⟩
    exact ⟨expands, same⟩
  · rintro ⟨expands, same⟩
    exact ⟨_, ⟨expands, rfl⟩, same⟩

theorem allOf_eq_nil_iff : allOf c f = .ok [] ↔
    ∀ s ∈ c.suites, s.perDirectory = true ∧ Discovery.subdirectories f s.root = .ok [] := by
  rw [allOf_eq_ok_iff, List.flatMap_eq_nil_iff]
  constructor
  · rintro ⟨expands, empty⟩ s listed
    rw [← ofConfig_eq_nil_iff (c := c), expands s listed, empty s listed]
  · intro empty
    have expands : ∀ s ∈ c.suites, ofConfig c f s = .ok [] :=
      fun s listed => ofConfig_eq_nil_iff.mpr (empty s listed)
    have nothing : ∀ s ∈ c.suites, expansion c f s = [] :=
      fun s listed => expansion_eq (expands s listed)
    exact ⟨fun s listed => nothing s listed ▸ expands s listed, nothing⟩

/-! ## Faults -/

theorem kind_of_ofRoot {name root : String} {e : Fault}
    (failed : ofRoot c f s name root = .error e) : e.kind = .discovery := by
  rcases bind_eq_error_iff.mp failed with walk | ⟨_, -, done⟩
  · unfold Discovery.discover at walk
    split at walk <;> cases walk
    rfl
  · cases done

theorem kind_of_subdirectories {root : String} {e : Fault}
    (failed : Discovery.subdirectories f root = .error e) : e.kind = .discovery := by
  unfold Discovery.subdirectories at failed
  split at failed <;> cases failed
  rfl

theorem kind_of_ofConfig {e : Fault} (failed : ofConfig c f s = .error e) :
    e.kind = .discovery := by
  unfold ofConfig at failed
  split at failed
  · rcases bind_eq_error_iff.mp failed with listing | ⟨dirs, -, expanding⟩
    · exact kind_of_subdirectories listing
    · obtain ⟨dir, -, root⟩ := exists_of_mapM_eq_error expanding
      exact kind_of_ofRoot root
  · rcases bind_eq_error_iff.mp failed with root | ⟨_, -, done⟩
    · exact kind_of_ofRoot root
    · cases done

theorem kind_of_allOf {e : Fault} (failed : allOf c f = .error e) : e.kind = .discovery := by
  rcases bind_eq_error_iff.mp failed with expanding | ⟨_, -, done⟩
  · obtain ⟨s, -, config⟩ := exists_of_mapM_eq_error expanding
    exact kind_of_ofConfig config
  · cases done

/-! ## One suite or one for each directory -/

def ofFiles (c : Config) (s : SuiteConfig) (name : String) (files : List String) : Suite where
  name
  interpreter := ⟨s.executable, s.args, c.timeout⟩
  language := s.language
  fixtures := ((rules c).select files).fixtures
  excluded := ((rules c).select files).excluded

theorem fixtures_ofFiles (c : Config) (s : SuiteConfig) (name : String) (files : List String) :
    (ofFiles c s name files).fixtures = Path.sort (files.filter fun path =>
      !(rules c).isExcluded path && (rules c).isFixture path) := by
  rw [← List.filter_filter]
  rfl

theorem excluded_ofFiles (c : Config) (s : SuiteConfig) (name : String) (files : List String) :
    (ofFiles c s name files).excluded = Path.sort (files.filter fun path =>
      (rules c).isExcluded path && (rules c).isFixture path) := by
  rw [← List.filter_filter]
  rfl

theorem ofConfig_whole (whole : s.perDirectory = false)
    (leads : f.at? s.root = some (.dir entries)) :
    ofConfig c f s = .ok [ofFiles c s s.name (filesIn s.root entries)] := by
  have found := Discovery.discover_of_dir (rules c) leads
  simp only [ofConfig, whole, ofRoot, found]
  rfl

theorem ofConfig_split (split : s.perDirectory = true) (readable : f.Readable s.root)
    (leads : f.at? s.root = some (.dir entries)) :
    ofConfig c f s = .ok ((Discovery.sortedDirs s.root entries).map fun e =>
      ofFiles c s (directoryName s.name ((Path.fileName? (Path.join s.root e.1)).getD ""))
        (e.2.files (Path.join s.root e.1))) := by
  have dirs := Discovery.subdirectories_of_dir leads
  simp only [ofConfig, split, dirs]
  show List.mapM _ _ = _
  rw [List.mapM_map, mapM_eq_ok_iff, List.forall₂_map_right_iff, List.forall₂_same]
  intro e listed
  have found := Discovery.discover_join (rules c) readable leads listed
  simp only [Function.comp_apply, ofRoot, found]
  rfl

/-- A root split by directories has the fixtures of the whole root in the same order, except for
those directly in the root, whatever the order in which the system lists its directories. -/
theorem perDirectory_regroups (readable : f.Readable s.root) (order : f.Reordered g) :
    ∃ whole parts, ofConfig c f { s with perDirectory := false } = .ok [whole] ∧
      ofConfig c g { s with perDirectory := true } = .ok parts ∧
      parts.flatMap fixtures = whole.fixtures.filter (fun path => !Path.isEntryOf s.root path) ∧
      parts.flatMap excluded = whole.excluded.filter (fun path => !Path.isEntryOf s.root path) := by
  obtain ⟨entries, leads⟩ := readable.isDir
  obtain ⟨u, leads', reordered⟩ := order.at? readable.wellFormed leads
  obtain ⟨others, rfl⟩ : ∃ others, u = .dir others := by
    cases u <;> cases reordered.isDir_eq
    exact ⟨_, rfl⟩
  obtain ⟨place, found, placed⟩ := Files.at?_eq_some_iff.mp leads
  have wf := readable.wellFormed.get? placed
  have given := (Files.accepts_of_find found).given
  have regroup := Discovery.sort_filter_eq_byDirectory wf given reordered
  have parts := ofConfig_split (c := c) (s := { s with perDirectory := true }) rfl
    (order.readable readable) leads'
  refine ⟨_, _, ofConfig_whole rfl leads, parts, ?_, ?_⟩
  · simp only [List.flatMap_map, fixtures_ofFiles, regroup]
    rfl
  · simp only [List.flatMap_map, excluded_ofFiles, regroup]
    rfl

end Suite

/-! ## A directory of tests -/

def Files.ofTests (entries : List (String × Tree)) : Files :=
  { top := .dir [("tests", .dir entries)] }

theorem Files.at?_ofTests (entries : List (String × Tree)) :
    (ofTests entries).at? "tests" = some (.dir entries) :=
  at?_only (by decide) (by decide) nofun

theorem Tree.wellFormed_ofTests {entries : List (String × Tree)}
    (wf : WellFormed String.utf8ByteSize (.dir entries)) :
    WellFormed (Files.ofTests entries).sizeOf (Files.ofTests entries).top := by
  have tests : Path.IsName "tests" ∧ "tests".utf8ByteSize ≤ maxName := by decide
  exact .dir (List.nodup_singleton _) (List.forall_mem_singleton.mpr tests)
    (List.forall_mem_singleton.mpr wf)

/-- Two directories and a file. In the order of texts the path `tests/a-b/one.lox` would come before
`tests/a/one.lox`. -/
def Tree.hyphenated : List (String × Tree) :=
  [("a-b", .dir [("one.lox", .file [])]), ("top.lox", .file []),
    ("a", .dir [("one.lox", .file [])])]

theorem Tree.wellFormed_hyphenated : WellFormed String.utf8ByteSize (.dir hyphenated) := by
  have one : WellFormed String.utf8ByteSize (.dir [("one.lox", .file [])]) :=
    .dir (by decide) (List.forall_mem_singleton.mpr (by decide))
      (List.forall_mem_singleton.mpr (.file []))
  refine .dir (by decide) (by decide) ?_
  simp only [hyphenated, List.forall_mem_cons]
  exact ⟨one, .file [], one, nofun⟩

theorem Files.readable_hyphenated : (ofTests Tree.hyphenated).Readable "tests" where
  wellFormed := Tree.wellFormed_ofTests Tree.wellFormed_hyphenated
  isDir := ⟨_, at?_ofTests _⟩
  fits := by
    intro entries listing
    obtain rfl : Tree.hyphenated = entries := by simpa [at?_ofTests] using listing
    decide

theorem Files.reordered_hyphenated :
    (ofTests Tree.hyphenated).Reordered (ofTests Tree.hyphenated.reverse) where
  top := .dir (.refl _) (by
    simp only [List.forall_mem_singleton, forall_const]
    exact Tree.wellFormed_hyphenated.reordered_of_perm (List.reverse_perm _).symm)
  here := rfl
  isRaw := rfl

theorem Suite.perDirectory_regroups_hyphen :
    ∃ whole parts,
      ofConfig {} (.ofTests Tree.hyphenated) { name := "lox", executable := "lox" } = .ok [whole] ∧
      ofConfig {} (.ofTests Tree.hyphenated.reverse)
        { name := "lox", executable := "lox", perDirectory := true } = .ok parts ∧
      parts.flatMap fixtures = whole.fixtures.filter (fun path => !Path.isEntryOf "tests" path) ∧
      parts.flatMap excluded = whole.excluded.filter (fun path => !Path.isEntryOf "tests" path) :=
  perDirectory_regroups (s := { name := "lox", executable := "lox" }) Files.readable_hyphenated
    Files.reordered_hyphenated

end Conformance

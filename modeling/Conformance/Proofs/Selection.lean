import Conformance.Proofs.Expansion
import Conformance.Proofs.Text.Search
import Conformance.Proofs.Config.Validation

/-! # Selection

Which suites a run has. A selection is empty without a complaint only if every configured suite is
split by directories and no root has one. The name of a configured suite selects the suites it
became, and with them every other suite whose name continues that name.
-/

namespace Conformance

/-! ## Configurations without problems -/

namespace Config

theorem names_nodup {c : Config} (valid : c.problem = none) :
    (c.suites.map SuiteConfig.name).Nodup :=
  (problem_eq_none_iff.mp valid).distinct

end Config

namespace Suite

variable {c : Config} {s d : SuiteConfig} {f : Files} {own : List Suite} {filters : List String}

/-! ## Empty selections -/

def chosen (filters : List String) (suites : List Suite) : List Suite :=
  suites.filter fun s => filters.isEmpty || filters.any s.selectedBy

theorem chosen_nil (suites : List Suite) : chosen [] suites = suites := by simp [chosen]

theorem chosen_eq_nil_iff {suites : List Suite} (filtered : filters ≠ []) :
    chosen filters suites = [] ↔ ∀ s ∈ suites, ∀ filter ∈ filters, s.selectedBy filter = false := by
  simp [chosen, filtered]

theorem select_of_suites_eq_nil (none_configured : c.suites = []) :
    select c f filters = .error Config.Problem.noSuites.fault := by
  rw [select, none_configured]
  rfl

theorem select_of_allOf_error {e : Fault} (configured : c.suites ≠ [])
    (failed : allOf c f = .error e) : select c f filters = .error e := by
  have suites : ¬ c.suites.isEmpty = true := by simpa using configured
  rw [select, if_neg suites, failed]
  rfl

theorem select_of_allOf {all : List Suite} (configured : c.suites ≠ [])
    (expanded : allOf c f = .ok all) :
    select c f filters = if filters ≠ [] ∧ chosen filters all = [] then
        .error (Config.Problem.noMatch filters).fault
      else .ok (chosen filters all) := by
  have suites : ¬ c.suites.isEmpty = true := by simpa using configured
  rw [select, if_neg suites, expanded]
  cases filters with
  | nil => simp [chosen, Bind.bind, Except.bind, Pure.pure, Except.pure]
  | cons filter filters => simp [chosen, Bind.bind, Except.bind]

theorem select_eq_nil_iff : select c f filters = .ok [] ↔
    filters = [] ∧ c.suites ≠ [] ∧ allOf c f = .ok [] := by
  by_cases configured : c.suites = []
  · simp [select_of_suites_eq_nil configured, configured]
  cases expanded : allOf c f with
  | error e => simp [select_of_allOf_error configured expanded]
  | ok all =>
    rw [select_of_allOf configured expanded]
    by_cases filtered : filters = []
    · simp [filtered, configured, chosen_nil]
    · by_cases empty : chosen filters all = [] <;> simp [filtered, empty]

theorem select_eq_problem_iff : (∃ p : Config.Problem, select c f filters = .error p.fault) ↔
    c.suites = [] ∨ filters ≠ [] ∧ ∃ all, allOf c f = .ok all ∧ chosen filters all = [] := by
  by_cases configured : c.suites = []
  · simp only [select_of_suites_eq_nil configured, configured, true_or, iff_true]
    exact ⟨_, rfl⟩
  cases expanded : allOf c f with
  | error e =>
    simp only [select_of_allOf_error configured expanded, configured, Except.error.injEq,
      reduceCtorEq, false_and, exists_false, and_false, or_self, iff_false]
    rintro ⟨p, rfl⟩
    cases kind_of_allOf expanded
  | ok all =>
    rw [select_of_allOf configured expanded]
    by_cases empty : filters ≠ [] ∧ chosen filters all = []
    · rw [if_pos empty]
      exact ⟨fun _ => .inr ⟨empty.1, all, rfl, empty.2⟩, fun _ => ⟨_, rfl⟩⟩
    · simp [empty, configured]

theorem interpreter_of_select {suites : List Suite} (selected : select c f filters = .ok suites)
    {s : Suite} (listed : s ∈ suites) :
    ∃ d ∈ c.suites, s.interpreter = ⟨d.executable, d.args, c.timeout⟩ := by
  by_cases configured : c.suites = []
  · cases (select_of_suites_eq_nil configured).symm.trans selected
  cases expanded : allOf c f with
  | error e => cases (select_of_allOf_error configured expanded).symm.trans selected
  | ok all =>
    have kept : suites = chosen filters all := by
      rw [select_of_allOf configured expanded] at selected
      split at selected
      · cases selected
      · exact (Except.ok.inj selected).symm
    have among : s ∈ all := (List.mem_filter.mp (kept ▸ listed)).1
    obtain ⟨expands, rfl⟩ := allOf_eq_ok_iff.mp expanded
    obtain ⟨d, configured, own⟩ := List.mem_flatMap.mp among
    obtain ⟨_, _, found, -⟩ := exists_ofRoot (expands d configured) own
    exact ⟨d, configured, interpreter_of_ofRoot found⟩

/-- What a selection without suites is: a success if there are no filters and every configured
suite is split by the directories of a root that has none, and a problem of the configuration
otherwise. -/
theorem select_empty (c : Config) (f : Files) (filters : List String) :
    (select c f filters = .ok [] ↔ filters = [] ∧ c.suites ≠ [] ∧
      ∀ s ∈ c.suites, s.perDirectory = true ∧ Discovery.subdirectories f s.root = .ok []) ∧
    ((∃ p : Config.Problem, select c f filters = .error p.fault) ↔
      c.suites = [] ∨ filters ≠ [] ∧ ∃ all, allOf c f = .ok all ∧
        ∀ s ∈ all, ∀ filter ∈ filters, s.selectedBy filter = false) := by
  rw [select_eq_nil_iff, allOf_eq_nil_iff, select_eq_problem_iff]
  refine ⟨Iff.rfl, or_congr_right (and_congr_right fun filtered => ?_)⟩
  simp only [chosen_eq_nil_iff filtered]

/-- A suite that is split by the directories of a root without any. -/
theorem select_empty_bare :
    ∃ c : Config, c.problem = none ∧ select c (.ofTests []) [] = .ok [] := by
  let c : Config := { suites := [{ name := "a", executable := "lox", perDirectory := true }] }
  have none_there : Discovery.subdirectories (.ofTests []) "tests" = .ok [] := by
    rw [Discovery.subdirectories_of_dir (Files.at?_ofTests [])]
    simp [Discovery.sortedDirs]
  have split : ∀ s ∈ c.suites, s.perDirectory = true ∧
      Discovery.subdirectories (.ofTests []) s.root = .ok [] :=
    List.forall_mem_singleton.mpr ⟨rfl, none_there⟩
  exact ⟨c, by decide +kernel, (select_empty c _ []).1.mpr ⟨rfl, List.cons_ne_nil _ _, split⟩⟩

/-! ## Selecting by the name of a configured suite -/

/-- A suite has a name, or that name with a label after it. -/
def IsNamedFor (s : Suite) (name : String) : Prop :=
  s.name = name ∨ ∃ label, s.name = directoryName name label

theorem selectedBy_iff {s : Suite} {filter : String} :
    s.selectedBy filter = true ↔ s.IsNamedFor filter := by
  have continued : (directoryName filter "").toList <+: s.name.toList ↔
      ∃ label, s.name = directoryName filter label := by
    have split (label : String) : (directoryName filter label).toList =
        (directoryName filter "").toList ++ label.toList := by simp [directoryName]
    constructor
    · rintro ⟨label, same⟩
      refine ⟨String.ofList label, String.toList_injective ?_⟩
      rw [split, String.toList_ofList, same]
    · rintro ⟨label, same⟩
      exact ⟨label.toList, same ▸ (split label).symm⟩
  rw [selectedBy, Bool.or_eq_true, decide_eq_true_iff, Text.after?_isSome_iff, continued]
  rfl

theorem isNamedFor_of_ofConfig (expanded : ofConfig c f d = .ok own) {s : Suite}
    (listed : s ∈ own) : s.IsNamedFor d.name := by
  obtain ⟨name, root, found, named⟩ := exists_ofRoot expanded listed
  rwa [IsNamedFor, name_of_ofRoot found]

theorem chosen_append (filters : List String) (suites others : List Suite) :
    chosen filters (suites ++ others) = chosen filters suites ++ chosen filters others :=
  List.filter_append ..

theorem mem_chosen_singleton {s : Suite} {name : String} {suites : List Suite} :
    s ∈ chosen [name] suites ↔ s ∈ suites ∧ s.IsNamedFor name := by
  simp [chosen, selectedBy_iff]

theorem chosen_own (expanded : ofConfig c f d = .ok own) : chosen [d.name] own = own :=
  List.filter_eq_self.mpr fun s listed => by
    simpa [selectedBy_iff] using isNamedFor_of_ofConfig expanded listed

/-- A suite of another configured suite that the name of a configured suite selects too. -/
def IsStray (c : Config) (f : Files) (d : SuiteConfig) (s : Suite) : Prop :=
  s.IsNamedFor d.name ∧ ∃ o ∈ c.suites, o ≠ d ∧ ∃ others, ofConfig c f o = .ok others ∧ s ∈ others

theorem mem_chosen_others_iff {front back : List SuiteConfig} (valid : c.problem = none)
    (parts : c.suites = front ++ d :: back)
    (each : ∀ s ∈ c.suites, ofConfig c f s = .ok (expansion c f s)) {s : Suite} :
    s ∈ chosen [d.name] (front.flatMap (expansion c f)) ++
        chosen [d.name] (back.flatMap (expansion c f)) ↔ IsStray c f d s := by
  have others : ∀ o, o ∈ front ∨ o ∈ back ↔ o ∈ c.suites ∧ o ≠ d := by
    have unique : (front ++ d :: back).Nodup := parts ▸ (Config.names_nodup valid).of_map
    have apart : d ∉ front ++ back := (List.nodup_middle.mp unique).notMem
    intro o
    rw [parts, List.mem_append, List.mem_cons]
    constructor
    · intro among
      refine ⟨by tauto, ?_⟩
      rintro rfl
      exact apart (List.mem_append.mpr among)
    · tauto
  rw [← chosen_append, mem_chosen_singleton, ← List.flatMap_append, List.mem_flatMap, IsStray]
  constructor
  · rintro ⟨⟨o, among, listed⟩, named⟩
    obtain ⟨among, different⟩ := (others o).mp (List.mem_append.mp among)
    exact ⟨named, o, among, different, _, each o among, listed⟩
  · rintro ⟨named, o, among, different, suites, expanded, listed⟩
    rw [← expansion_eq expanded] at listed
    exact ⟨⟨o, List.mem_append.mpr ((others o).mpr ⟨among, different⟩), listed⟩, named⟩

theorem surrounded_eq_iff {α : Type} {front own back : List α} :
    front ++ own ++ back = own ↔ front ++ back = [] := by
  constructor
  · intro same
    have lengths := congrArg List.length same
    simp only [List.length_append] at lengths
    exact List.eq_nil_of_length_eq_zero (by rw [List.length_append]; omega)
  · intro nothing
    obtain ⟨rfl, rfl⟩ := List.append_eq_nil_iff.mp nothing
    simp

/-- The name of a configured suite selects the suites it became, in order, and around them all
strays. It selects nothing else, and so exactly those suites if there are no strays. -/
theorem select_name {all : List Suite} (valid : c.problem = none) (listed : d ∈ c.suites)
    (expands : allOf c f = .ok all) (expanded : ofConfig c f d = .ok own) (inhabited : own ≠ []) :
    (∃ earlier later, select c f [d.name] = .ok (earlier ++ own ++ later) ∧
      ∀ s, s ∈ earlier ++ later ↔ IsStray c f d s) ∧
    (select c f [d.name] = .ok own ↔ ∀ s, ¬ IsStray c f d s) := by
  have configured : c.suites ≠ [] := List.ne_nil_of_mem listed
  obtain ⟨each, rfl⟩ := allOf_eq_ok_iff.mp expands
  obtain ⟨front, back, parts⟩ := List.append_of_mem listed
  have strays := fun s => mem_chosen_others_iff (s := s) valid parts each
  have selected : select c f [d.name] =
      .ok (chosen [d.name] (front.flatMap (expansion c f)) ++ own ++
        chosen [d.name] (back.flatMap (expansion c f))) := by
    rw [select_of_allOf configured expands, parts, List.flatMap_append, List.flatMap_cons,
      expansion_eq expanded, chosen_append, chosen_append, chosen_own expanded]
    simp [inhabited]
  refine ⟨⟨_, _, selected, strays⟩, ?_⟩
  simp only [← strays, selected, ← List.eq_nil_iff_forall_not_mem, Except.ok.injEq,
    surrounded_eq_iff]

end Suite

def Config.continued : Config :=
  { suites := [{ name := "a", executable := "lox" }, { name := "a - b", executable := "lox" }] }

theorem Suite.ofConfig_continued : ∀ s ∈ Config.continued.suites,
    ofConfig .continued (.ofTests []) s = .ok [ofFiles .continued s s.name []] := by
  have inTests : ∀ s ∈ Config.continued.suites, s.perDirectory = false ∧ s.root = "tests" := by
    decide
  intro s listed
  obtain ⟨whole, root⟩ := inTests s listed
  exact ofConfig_whole whole (root ▸ Files.at?_ofTests [])

/-- The name of the first suite selects the second as well, though the configuration is valid and
all of its suites expand. -/
theorem Suite.select_name_continued : Config.continued.problem = none ∧
    (∃ all, allOf .continued (.ofTests []) = .ok all) ∧
    ∃ d ∈ Config.continued.suites, ∃ own,
      ofConfig .continued (.ofTests []) d = .ok own ∧ own ≠ [] ∧
        select .continued (.ofTests []) [d.name] ≠ .ok own := by
  have valid : Config.continued.problem = none := by decide +kernel
  have first : { name := "a", executable := "lox" } ∈ Config.continued.suites := List.mem_cons_self
  have second : { name := "a - b", executable := "lox" } ∈ Config.continued.suites :=
    List.mem_cons_of_mem _ List.mem_cons_self
  have each := ofConfig_continued
  have expands : allOf .continued (.ofTests []) = .ok _ :=
    allOf_eq_ok_iff.mpr ⟨fun s listed => expansion_eq (each s listed) ▸ each s listed, rfl⟩
  refine ⟨valid, ⟨_, expands⟩, _, first, _, each _ first, List.cons_ne_nil _ _, ?_⟩
  have exactly := (select_name valid first expands (each _ first) (List.cons_ne_nil _ _)).2
  rw [ne_eq, exactly, not_forall_not]
  exact ⟨_, .inr ⟨"b", rfl⟩, _, second, by decide, _, each _ second, List.mem_singleton_self _⟩

end Conformance

import Conformance.Proofs.Expansion
import Conformance.Proofs.Text.Search

/-! # What a walk finds

The files below a directory are the regular files at any depth, each under one path. The walk sorts
out those with the right extension, and splits them by the excluded texts; the order in which a
system lists its directories leaves no trace in the answer.
-/

namespace Conformance

open Conformance.Tree (filesIn)

namespace Tree

def IsRegular : Tree → Prop
  | .file _ | .program _ => True
  | .link _ | .dir _ | .device _ => False

variable {size : String → Nat} {t u : Tree} {names : List String}

theorem WellFormed.isName_of_get? (wf : WellFormed size t) (found : t.get? names = some u) :
    ∀ n ∈ names, Path.IsName n := by
  induction names generalizing t with
  | nil => exact nofun
  | cons name names ih =>
    obtain ⟨v, entry, onward⟩ := Option.bind_eq_some_iff.mp found
    cases wf with
    | dir distinct isName inside =>
      have listed := (entry?_eq_some_iff distinct).mp entry
      exact List.forall_mem_cons.mpr ⟨(isName _ listed).1, ih (inside _ listed) onward⟩
    | file | link | device | program => cases entry

theorem get?_of_isDir_false (notDir : t.isDir = false) :
    t.get? names = some u ↔ names = [] ∧ t = u := by
  cases names with
  | nil => simp [Tree.get?]
  | cons name names =>
    have none : t.entry? name = none := by cases t <;> first | rfl | cases notDir
    simp [Tree.get?, none]

/-- The files below a tree are its regular files, each under the names that lead to it. -/
theorem WellFormed.mem_files_iff (wf : WellFormed size t) {path file : String} :
    file ∈ t.files path ↔
      ∃ names u, t.get? names = some u ∧ u.IsRegular ∧ file = Path.below path names := by
  induction wf generalizing path with
  | file | program =>
    simp only [files, List.mem_singleton]
    constructor
    · rintro rfl
      exact ⟨[], _, rfl, trivial, rfl⟩
    · rintro ⟨names, u, found, -, rfl⟩
      obtain ⟨rfl, -⟩ := (get?_of_isDir_false rfl).mp found
      rfl
  | link | device =>
    simp only [files, List.not_mem_nil, false_iff]
    rintro ⟨names, u, found, regular, -⟩
    obtain ⟨-, rfl⟩ := (get?_of_isDir_false rfl).mp found
    exact regular
  | @dir entries distinct isName inside ih =>
    rw [files, filesIn_eq_flatMap, List.mem_flatMap]
    constructor
    · rintro ⟨e, listed, among⟩
      obtain ⟨names, u, found, regular, rfl⟩ := (ih e listed).mp among
      refine ⟨e.1 :: names, u, ?_, regular, rfl⟩
      rw [Tree.get?, (entry?_eq_some_iff distinct).mpr listed, Option.bind_some, found]
    · rintro ⟨names, u, found, regular, rfl⟩
      cases names with
      | nil =>
        obtain rfl := Option.some.inj found
        exact regular.elim
      | cons name names =>
        obtain ⟨v, entry, onward⟩ := Option.bind_eq_some_iff.mp found
        have listed := (entry?_eq_some_iff distinct).mp entry
        exact ⟨(name, v), listed, (ih _ listed).mpr ⟨names, u, onward, regular, rfl⟩⟩

theorem WellFormed.files_nodup (wf : WellFormed size t) {path : String} (given : path ≠ "") :
    (t.files path).Nodup := by
  induction wf generalizing path with
  | file | program => exact List.nodup_singleton _
  | link | device => exact List.nodup_nil
  | @dir entries distinct isName inside ih =>
    rw [files, filesIn_eq_flatMap, List.nodup_flatMap]
    refine ⟨fun e listed => ih e listed (Path.join_ne_empty (isName e listed).1), ?_⟩
    have apart : entries.Pairwise fun a b => a.1 ≠ b.1 := List.pairwise_map.mp distinct
    refine apart.imp_of_mem fun {a b} among also different file inA inB => different ?_
    -- a path tells the names that lead to it, and the first of them is that of the entry
    obtain ⟨names, u, found, -, rfl⟩ := (inside a among).mem_files_iff.mp inA
    obtain ⟨others, v, found', -, same⟩ := (inside b also).mem_files_iff.mp inB
    have valid := List.forall_mem_cons.mpr
      ⟨(isName a among).1, (inside a among).isName_of_get? found⟩
    have valid' := List.forall_mem_cons.mpr
      ⟨(isName b also).1, (inside b also).isName_of_get? found'⟩
    have components : Path.below path (a.1 :: names) = Path.below path (b.1 :: others) := same
    exact (List.cons.inj (Path.eq_of_components_below given valid valid'
      (congrArg Path.components components))).1

end Tree

namespace Discovery

/-- A fixture below a root: a regular file at any depth, whose name is a stem, a dot and the
extension, without a further dot after that one. -/
inductive IsFixtureBelow (extension root : String) (t : Tree) : String → Prop
  | intro {names : List String} {u : Tree} {stem : String}
      (found : t.get? (names ++ [stem ++ "." ++ extension]) = some u) (regular : u.IsRegular)
      (given : stem ≠ "") (undotted : '.' ∉ extension.toList) :
      IsFixtureBelow extension root t (Path.below root (names ++ [stem ++ "." ++ extension]))

variable {size : String → Nat} {r : Rules} {root path : String} {t : Tree}
  {entries others : List (String × Tree)} {f g : Files}

theorem isExcluded_iff :
    r.isExcluded path = true ↔ ∃ needle ∈ r.exclude, needle.toList <:+: path.toList := by
  simp only [Rules.isExcluded, List.any_eq_true, Text.contains_iff]

theorem isFixture_below {names : List String} {name : String} (given : root ≠ "")
    (valid : ∀ n ∈ names ++ [name], Path.IsName n) :
    r.isFixture (Path.below root (names ++ [name])) = true ↔
      ∃ stem, stem ≠ "" ∧ name = stem ++ "." ++ r.extension ∧ '.' ∉ r.extension.toList := by
  rw [Rules.isFixture, Path.fileName?_below given valid, Option.bind_some, decide_eq_true_iff,
    Path.extension?_eq_some_iff]

theorem isFixtureBelow_iff (wf : t.WellFormed size) (isDir : t.isDir = true) (given : root ≠ "") :
    IsFixtureBelow r.extension root t path ↔ path ∈ t.files root ∧ r.isFixture path = true := by
  constructor
  · rintro ⟨found, regular, stemmed, undotted⟩
    have valid := wf.isName_of_get? found
    exact ⟨wf.mem_files_iff.mpr ⟨_, _, found, regular, rfl⟩,
      (isFixture_below given valid).mpr ⟨_, stemmed, rfl, undotted⟩⟩
  · rintro ⟨among, isFixture⟩
    obtain ⟨names, u, found, regular, rfl⟩ := wf.mem_files_iff.mp among
    have valid := wf.isName_of_get? found
    rcases List.eq_nil_or_concat' names with rfl | ⟨names, name, rfl⟩
    · obtain rfl : t = u := Option.some.inj found
      cases t with
      | dir entries => exact regular.elim
      | file | link | device | program => cases isDir
    · obtain ⟨stem, stemmed, rfl, undotted⟩ := (isFixture_below given valid).mp isFixture
      exact .intro found regular stemmed undotted

end Discovery

/-- The files found split the fixtures below a root: each fixture is in one of the two lists, once,
and both are in the order of paths. -/
structure Discovered.IsPartition (r : Discovery.Rules) (root : String) (t : Tree)
    (found : Discovered) : Prop where
  fixtures_increasing : found.fixtures.Pairwise Path.Precedes
  excluded_increasing : found.excluded.Pairwise Path.Precedes
  distinct : (found.fixtures ++ found.excluded).Nodup
  complete : ∀ path, path ∈ found.fixtures ++ found.excluded ↔
    Discovery.IsFixtureBelow r.extension root t path
  excluded_iff : ∀ path ∈ found.fixtures ++ found.excluded,
    path ∈ found.excluded ↔ ∃ needle ∈ r.exclude, needle.toList <:+: path.toList

namespace Discovery

variable {size : String → Nat} {r : Rules} {root : String} {t : Tree}
  {entries others : List (String × Tree)} {f g : Files}

theorem pairwise_precedes_sort (wf : t.WellFormed size) (given : root ≠ "")
    {paths : List String} (sub : paths.Sublist (t.files root)) :
    (Path.sort paths).Pairwise Path.Precedes := by
  have nodup : (Path.sort paths).Nodup :=
    (Path.sort_perm paths).nodup_iff.mpr ((wf.files_nodup given).sublist sub)
  have listed {path : String} (among : path ∈ Path.sort paths) : path ∈ t.files root :=
    sub.subset ((Path.sort_perm paths).mem_iff.mp among)
  refine (nodup.and (Path.pairwise_sort paths)).imp_of_mem fun {a b} among also ordered => ?_
  obtain ⟨different, before⟩ := ordered
  -- two files with the same components are the same file
  refine Path.precedes_iff.mpr ⟨before, fun same => different ?_⟩
  have after : Path.le b a = true := by
    unfold Path.le at before ⊢
    rwa [same] at before ⊢
  exact eq_of_le_of_mem_files wf given a (listed among) b (listed also) before after

theorem select_perm (r : Rules) (files : List String) :
    ((r.select files).fixtures ++ (r.select files).excluded).Perm (files.filter r.isFixture) := by
  have parts := (Path.sort_perm ((files.filter r.isFixture).filter fun path =>
    !r.isExcluded path)).append (Path.sort_perm ((files.filter r.isFixture).filter r.isExcluded))
  exact parts.trans (List.perm_append_comm.trans (List.filter_append_perm _ _))

theorem isPartition_select (wf : t.WellFormed size) (isDir : t.isDir = true) (given : root ≠ "") :
    (r.select (t.files root)).IsPartition r root t where
  fixtures_increasing :=
    pairwise_precedes_sort wf given (List.filter_sublist.trans List.filter_sublist)
  excluded_increasing :=
    pairwise_precedes_sort wf given (List.filter_sublist.trans List.filter_sublist)
  distinct := (select_perm r _).nodup_iff.mpr ((wf.files_nodup given).filter _)
  complete path := by
    rw [(select_perm r _).mem_iff, List.mem_filter, isFixtureBelow_iff wf isDir given]
  excluded_iff path listed := by
    have among := (select_perm r _).mem_iff.mp listed
    rw [← isExcluded_iff, Rules.select, (Path.sort_perm _).mem_iff, List.mem_filter]
    exact and_iff_right among

theorem select_eq_of_perm (wf : t.WellFormed size) (given : root ≠ "") {files : List String}
    (perm : (t.files root).Perm files) : r.select files = r.select (t.files root) := by
  have same (keep : String → Bool) : Path.sort (((t.files root).filter r.isFixture).filter keep) =
      Path.sort ((files.filter r.isFixture).filter keep) := by
    refine Path.sort_eq_of_perm ((perm.filter _).filter _) fun a among b also => ?_
    have listed := List.mem_of_mem_filter (List.mem_of_mem_filter among)
    have also_listed := List.mem_of_mem_filter (List.mem_of_mem_filter also)
    exact eq_of_le_of_mem_files wf given a listed b also_listed
  rw [Rules.select, Rules.select, same, same]

/-- Below a directory the fixtures are found in full and in order, split by the excluded texts, and
alike in whatever order the system lists its directories. -/
theorem discover_partition (r : Rules) (wf : f.top.WellFormed f.sizeOf)
    (leads : f.at? root = some (.dir entries)) :
    ∃ found : Discovered, (∀ g, f.Reordered g → discover r g root = .ok found) ∧
      found.IsPartition r root (.dir entries) := by
  obtain ⟨place, way, placed⟩ := Files.at?_eq_some_iff.mp leads
  have given := (Files.accepts_of_find way).given
  have inside := wf.get? placed
  refine ⟨r.select (filesIn root entries), fun g order => ?_, isPartition_select inside rfl given⟩
  obtain ⟨u, leads', reordered⟩ := order.at? wf leads
  obtain ⟨others, rfl⟩ : ∃ others, u = .dir others := by
    cases u <;> cases reordered.isDir_eq
    exact ⟨_, rfl⟩
  have perm : ((Tree.dir entries).files root).Perm ((Tree.dir others).files root) :=
    reordered.files_perm root
  have same : r.select (filesIn root others) = r.select (filesIn root entries) :=
    select_eq_of_perm inside given perm
  rw [discover_of_dir r leads', same]

theorem discover_partition_hyphen :
    (Files.ofTests Tree.hyphenated).top.WellFormed (Files.ofTests Tree.hyphenated).sizeOf ∧
      (Files.ofTests Tree.hyphenated).at? "tests" = some (.dir Tree.hyphenated) ∧
      ∃ found : Discovered,
        (∀ g, (Files.ofTests Tree.hyphenated).Reordered g →
          discover ⟨"lox", ["a-b", "top"]⟩ g "tests" = .ok found) ∧
        found.IsPartition ⟨"lox", ["a-b", "top"]⟩ "tests" (.dir Tree.hyphenated) := by
  have wf := Tree.wellFormed_ofTests Tree.wellFormed_hyphenated
  have leads := Files.at?_ofTests Tree.hyphenated
  exact ⟨wf, leads, discover_partition ⟨"lox", ["a-b", "top"]⟩ wf leads⟩

end Discovery

end Conformance

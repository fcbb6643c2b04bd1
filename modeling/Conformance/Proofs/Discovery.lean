import Conformance.Proofs.Tree
import Conformance.Discovery

/-! # Discovery by directories

The sorted fixtures of a root are those directly in it and those of its directories, one directory
after the other. The order of paths is by components, so it never mixes what lies below two entries;
the order of texts would.
-/

namespace Conformance

open Conformance.Tree (filesIn)

namespace Discovery

variable {size : String → Nat} {root : String} {entries others : List (String × Tree)}
  {f g : Files} {keep : String → Bool}

theorem filesBelow_of_dir (leads : f.at? root = some (.dir entries)) :
    filesBelow f root = some (filesIn root entries) := by
  unfold filesBelow
  rw [leads]
  cases (f.locateSelf? root).bind f.top.get? with
  | none => rfl
  | some t => cases t <;> rfl

theorem discover_of_dir (r : Rules) (leads : f.at? root = some (.dir entries)) :
    discover r f root = .ok (r.select (filesIn root entries)) := by
  rw [discover, filesBelow_of_dir leads]

/-- The entries that are directories, in the order of their paths. -/
def sortedDirs (root : String) (entries : List (String × Tree)) : List (String × Tree) :=
  (entries.filter fun e => e.2.isDir).mergeSort fun a b =>
    Path.le (Path.join root a.1) (Path.join root b.1)

theorem sortedDirs_perm (root : String) (entries : List (String × Tree)) :
    (sortedDirs root entries).Perm (entries.filter fun e => e.2.isDir) :=
  List.mergeSort_perm _ _

theorem mem_of_mem_sortedDirs {e : String × Tree} (listed : e ∈ sortedDirs root entries) :
    e ∈ entries ∧ e.2.isDir = true :=
  List.mem_filter.mp ((sortedDirs_perm root entries).mem_iff.mp listed)

theorem map_sortedDirs (root : String) (entries : List (String × Tree)) :
    (sortedDirs root entries).map (fun e => Path.join root e.1) =
      Path.sort ((entries.filter fun e => e.2.isDir).map fun e => Path.join root e.1) :=
  List.map_mergeSort fun _ _ _ _ => rfl

theorem pairwise_sortedDirs (root : String) (entries : List (String × Tree)) :
    (sortedDirs root entries).Pairwise fun a b =>
      Path.le (Path.join root a.1) (Path.join root b.1) = true := by
  have sorted := Path.pairwise_sort
    ((entries.filter fun e => e.2.isDir).map fun e => Path.join root e.1)
  rwa [← map_sortedDirs, List.pairwise_map] at sorted

theorem subdirectories_of_dir (leads : f.at? root = some (.dir entries)) :
    subdirectories f root = .ok ((sortedDirs root entries).map fun e => Path.join root e.1) := by
  rw [subdirectories, leads, map_sortedDirs]

def byDirectory (keep : String → Bool) (root : String) (entries : List (String × Tree)) :
    List String :=
  (sortedDirs root entries).flatMap fun e =>
    Path.sort ((e.2.files (Path.join root e.1)).filter keep)

theorem exists_below_entry (wf : Tree.WellFormed size (.dir entries)) {e : String × Tree}
    (listed : e ∈ entries) {path : String} (among : path ∈ e.2.files (Path.join root e.1)) :
    ∃ names, (∀ n ∈ e.1 :: names, Path.IsName n) ∧ path = Path.below root (e.1 :: names) ∧
      (e.2.isDir = true ↔ names ≠ []) := by
  cases wf with | dir _ names below =>
  have isName := (names e listed).1
  obtain ⟨rest, valid, same, deep⟩ :=
    (below e listed).exists_below (Path.join_ne_empty isName) among
  exact ⟨rest, List.forall_mem_cons.mpr ⟨isName, valid⟩, same, deep⟩

theorem isEntryOf_of_mem_files (wf : Tree.WellFormed size (.dir entries)) (given : root ≠ "")
    {e : String × Tree} (listed : e ∈ entries) {path : String}
    (among : path ∈ e.2.files (Path.join root e.1)) : Path.isEntryOf root path = !e.2.isDir := by
  obtain ⟨names, valid, rfl, deep⟩ := exists_below_entry wf listed among
  have short : (e.1 :: names).length = 1 ↔ names = [] := by simp
  rw [Bool.eq_iff_iff, Path.isEntryOf_below given valid (List.cons_ne_nil _ _), short,
    Bool.not_eq_true', ← Bool.not_eq_true, deep, not_not]

theorem filter_files_isEntryOf (wf : Tree.WellFormed size (.dir entries)) (given : root ≠ "")
    {e : String × Tree} (listed : e ∈ entries) :
    (e.2.files (Path.join root e.1)).filter (fun path => !Path.isEntryOf root path) =
      if e.2.isDir then e.2.files (Path.join root e.1) else [] := by
  have same : ∀ path ∈ e.2.files (Path.join root e.1),
      (!Path.isEntryOf root path) = e.2.isDir := by
    intro path among
    rw [isEntryOf_of_mem_files wf given listed among, Bool.not_not]
  rw [List.filter_congr same]
  cases e.2.isDir <;> simp

/-- Leaving elements out is the same as having them contribute nothing. -/
theorem flatMap_filter_eq {α β : Type} {p : α → Bool} {F G : α → List β} {l : List α}
    (kept : ∀ a ∈ l, G a = if p a then F a else []) : (l.filter p).flatMap F = l.flatMap G := by
  induction l with
  | nil => rfl
  | cons a l ih =>
    rw [List.forall_mem_cons] at kept
    rw [List.flatMap_cons, kept.1, ← ih kept.2]
    cases h : p a <;> simp [h]

theorem byDirectory_perm (wf : Tree.WellFormed size (.dir entries)) (given : root ≠ "") :
    (byDirectory keep root entries).Perm
      (((filesIn root entries).filter keep).filter fun path => !Path.isEntryOf root path) := by
  rw [Tree.filesIn_eq_flatMap, List.filter_comm, List.filter_flatMap, List.filter_flatMap]
  have grouped : ∀ e ∈ entries,
      ((e.2.files (Path.join root e.1)).filter fun path =>
          !Path.isEntryOf root path).filter keep =
        if e.2.isDir then (e.2.files (Path.join root e.1)).filter keep else [] := by
    intro e listed
    rw [filter_files_isEntryOf wf given listed]
    split <;> rfl
  rw [← flatMap_filter_eq grouped]
  exact (sortedDirs_perm root entries).flatMap fun e _ => Path.sort_perm _

theorem mem_of_mem_sort_filter {path : String} {paths : List String}
    (among : path ∈ Path.sort (paths.filter keep)) : path ∈ paths :=
  List.mem_of_mem_filter ((Path.sort_perm _).mem_iff.mp among)

theorem pairwise_byDirectory (wf : Tree.WellFormed size (.dir entries)) (given : root ≠ "") :
    (byDirectory keep root entries).Pairwise fun a b => Path.le a b = true := by
  rw [byDirectory, List.pairwise_flatMap]
  refine ⟨fun e _ => Path.pairwise_sort _, ?_⟩
  have different : (sortedDirs root entries).Pairwise fun a b => a.1 ≠ b.1 := by
    cases wf with | dir distinct _ _ =>
    have apart : entries.Pairwise fun a b => a.1 ≠ b.1 := List.pairwise_map.mp distinct
    exact ((sortedDirs_perm root entries).pairwise_iff Ne.symm).mpr (apart.filter _)
  have ordered : (sortedDirs root entries).Pairwise fun a b =>
      a.1 ≠ b.1 ∧ Path.le (Path.join root a.1) (Path.join root b.1) = true :=
    different.and (pairwise_sortedDirs root entries)
  -- What lies below two entries of the root is in the order of the entries' own paths.
  refine ordered.imp_of_mem ?_
  rintro a b among also ⟨different, before⟩ x inA y inB
  obtain ⟨names, valid, rfl, -⟩ :=
    exists_below_entry wf (mem_of_mem_sortedDirs among).1 (mem_of_mem_sort_filter inA)
  obtain ⟨others, others_valid, rfl, -⟩ :=
    exists_below_entry wf (mem_of_mem_sortedDirs also).1 (mem_of_mem_sort_filter inB)
  rw [Path.le_below_cons given valid others_valid different]
  exact before

theorem eq_of_le_of_mem_files {t : Tree} (wf : t.WellFormed size) (given : root ≠ "") :
    ∀ a ∈ t.files root, ∀ b ∈ t.files root, Path.le a b = true → Path.le b a = true → a = b := by
  intro a among b also before after
  obtain ⟨names, valid, rfl, -⟩ := wf.exists_below given among
  obtain ⟨others, others_valid, rfl, -⟩ := wf.exists_below given also
  exact Path.eq_of_le_below given valid others_valid before after

theorem sort_filter_eq_byDirectory (wf : Tree.WellFormed size (.dir entries)) (given : root ≠ "")
    (same : Tree.Reordered (.dir entries) (.dir others)) (keep : String → Bool) :
    (Path.sort ((filesIn root entries).filter keep)).filter
        (fun path => !Path.isEntryOf root path) = byDirectory keep root others := by
  have files : (filesIn root entries).Perm (filesIn root others) := same.files_perm root
  have whole : (Path.sort ((filesIn root entries).filter keep)).Perm
      ((filesIn root others).filter keep) := (Path.sort_perm _).trans (files.filter keep)
  have ordered := same.wellFormed wf
  have perm := (whole.filter fun path => !Path.isEntryOf root path).trans
    (byDirectory_perm ordered given).symm
  have sorted := (Path.pairwise_sort ((filesIn root entries).filter keep)).filter
    fun path => !Path.isEntryOf root path
  -- Paths of one root are in one order only, because no two of them are equal in it.
  have inRoot : ∀ path ∈ byDirectory keep root others, path ∈ Tree.files root (.dir entries) := by
    intro path listed
    exact mem_of_mem_sort_filter (List.mem_of_mem_filter (perm.mem_iff.mpr listed))
  have antisymm : ∀ a b, a ∈ byDirectory keep root others → b ∈ byDirectory keep root others →
      Path.le a b = true → Path.le b a = true → a = b :=
    fun a b among also => eq_of_le_of_mem_files wf given a (inRoot a among) b (inRoot b also)
  exact perm.eq_of_pairwise (fun a b among => antisymm a b (perm.mem_iff.mp among)) sorted
    (pairwise_byDirectory ordered given)

theorem discover_join (r : Rules) (readable : f.Readable root)
    (leads : f.at? root = some (.dir entries)) {e : String × Tree}
    (listed : e ∈ sortedDirs root entries) :
    discover r f (Path.join root e.1) = .ok (r.select (e.2.files (Path.join root e.1))) := by
  obtain ⟨among, isDir⟩ := mem_of_mem_sortedDirs listed
  obtain ⟨name, t⟩ := e
  cases t with
  | dir inside =>
    have fits := readable.fits entries leads (name, .dir inside) among isDir
    exact discover_of_dir r (Files.at?_join readable.wellFormed leads among fits)
  | file | link | device | program => cases isDir

end Discovery

end Conformance

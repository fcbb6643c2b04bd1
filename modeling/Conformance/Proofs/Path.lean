import Mathlib.Data.List.Lex
import Mathlib.Data.List.TakeWhile
import Mathlib.Data.Prod.Lex
import Mathlib.Data.String.Basic
import Conformance.Path

/-! # Components and order of paths

Joining a name to a path adds one component. The order of paths is the lexicographic order of their
components, so that two different paths below one directory are never equal in it, and what lies
below one entry of a directory stays together.
-/

namespace Conformance.Path

structure IsName (name : String) : Prop where
  ne_empty : name ≠ ""
  ne_here : name ≠ "."
  ne_up : name ≠ ".."
  no_slash : '/' ∉ name.toList
  no_null : '\x00' ∉ name.toList

instance (name : String) : Decidable (IsName name) :=
  decidable_of_iff (name ≠ "" ∧ name ≠ "." ∧ name ≠ ".." ∧ '/' ∉ name.toList ∧ '\x00' ∉ name.toList)
    ⟨fun ⟨a, b, c, d, e⟩ => ⟨a, b, c, d, e⟩, fun ⟨a, b, c, d, e⟩ => ⟨a, b, c, d, e⟩⟩

/-! ## Components -/

theorem splitSlashes_ne_nil (text : List Char) : splitSlashes text ≠ [] := by
  unfold splitSlashes
  split
  · exact List.cons_ne_nil _ _
  · split
    · exact List.cons_ne_nil _ _
    · split <;> exact List.cons_ne_nil _ _

theorem splitSlashes_append_slash (front back : List Char) :
    splitSlashes (front ++ '/' :: back) = splitSlashes front ++ splitSlashes back := by
  induction front with
  | nil => rfl
  | cons c front ih =>
    obtain ⟨part, rest, split⟩ := List.exists_cons_of_ne_nil (splitSlashes_ne_nil front)
    by_cases slash : c = '/'
    · simp [splitSlashes, slash, ih]
    · simp [splitSlashes, slash, ih, split]

theorem splitSlashes_eq_singleton {text : List Char} (none : '/' ∉ text) :
    splitSlashes text = [text] := by
  induction text with
  | nil => rfl
  | cons c text ih =>
    rw [List.mem_cons, not_or] at none
    simp [splitSlashes, ih none.2, Ne.symm none.1]

theorem eq_nil_of_splitSlashes {text : List Char} (blank : splitSlashes text = [[]]) :
    text = [] := by
  rcases text with _ | ⟨c, text⟩
  · rfl
  · obtain ⟨part, rest, split⟩ := List.exists_cons_of_ne_nil (splitSlashes_ne_nil text)
    by_cases slash : c = '/' <;> simp [splitSlashes, slash, split] at blank

theorem segments_of_isName {name : String} (isName : IsName name) : segments name = [name] := by
  rw [segments, splitSlashes_eq_singleton isName.no_slash, List.map_singleton,
    String.ofList_toList]

theorem segments_ne_nil (path : String) : segments path ≠ [] := by
  simpa [segments] using splitSlashes_ne_nil path.toList

theorem segments_slash {dir name : String} (isName : IsName name) :
    segments (dir ++ "/" ++ name) = segments dir ++ [name] := by
  have chars : (dir ++ "/" ++ name).toList = dir.toList ++ '/' :: name.toList := by simp
  rw [segments, chars, splitSlashes_append_slash, splitSlashes_eq_singleton isName.no_slash]
  simp [segments]

/-- A joined path has the segments of its directory and the name. A slash at the end of the
directory has no further segment after it. -/
theorem exists_segments_join {dir name : String} (given : dir ≠ "") (isName : IsName name) :
    ∃ parts, parts ≠ [] ∧ segments (join dir name) = parts ++ [name] ∧
      (segments dir = parts ∨ segments dir = parts ++ [""]) := by
  by_cases closed : dir.toList.getLast? = some '/'
  · obtain ⟨front, dir_eq⟩ := List.getLast?_eq_some_iff.mp closed
    have joined : join dir name = dir ++ name := by simp [join, closed]
    have inhabited : (splitSlashes front).map String.ofList ≠ [] := by
      simpa using splitSlashes_ne_nil front
    refine ⟨(splitSlashes front).map String.ofList, inhabited, ?_, .inr ?_⟩
    · rw [segments, joined, String.toList_append, dir_eq, List.append_assoc, List.singleton_append,
        splitSlashes_append_slash, splitSlashes_eq_singleton isName.no_slash]
      simp
    · rw [segments, dir_eq, splitSlashes_append_slash]
      simp [splitSlashes]
  · have joined : join dir name = dir ++ "/" ++ name := by simp [join, closed, given]
    exact ⟨segments dir, segments_ne_nil dir, joined ▸ segments_slash isName, .inl rfl⟩

theorem component?_of_isName {name : String} (isName : IsName name) :
    component? name = some (.name name) := by
  simp [component?, isName.ne_empty, isName.ne_here, isName.ne_up]

def leading (segment : String) : List Component :=
  if segment = "" then [.root] else if segment = "." then [.here] else (component? segment).toList

theorem components_of_segments {path first : String} {rest : List String}
    (split : segments path = first :: rest) (given : first = "" → rest ≠ []) :
    components path = leading first ++ rest.filterMap component? := by
  unfold components leading
  rw [split]
  split
  · next same =>
    obtain ⟨rfl, rfl⟩ := List.cons.inj same
    exact absurd rfl (given rfl)
  · next same =>
    obtain ⟨rfl, rfl⟩ := List.cons.inj same
    rfl
  · next same =>
    obtain ⟨rfl, rfl⟩ := List.cons.inj same
    rfl
  · next notEmpty notRoot notHere =>
    have notBlank : first ≠ "" := by rintro rfl; exact notRoot _ rfl
    have notDot : first ≠ "." := by rintro rfl; exact notHere _ rfl
    rw [if_neg notBlank, if_neg notDot, List.filterMap_cons]
    cases component? first <;> rfl

theorem components_join {dir name : String} (given : dir ≠ "") (isName : IsName name) :
    components (join dir name) = components dir ++ [.name name] := by
  obtain ⟨parts, inhabited, joined, split⟩ := exists_segments_join given isName
  obtain ⟨first, rest, rfl⟩ := List.exists_cons_of_ne_nil inhabited
  have last := component?_of_isName isName
  rw [components_of_segments joined (by simp)]
  rcases split with split | split
  · have longer : first = "" → rest ≠ [] := by
      rintro rfl rfl
      have blank : splitSlashes dir.toList = [[]] := by simpa [segments] using split
      exact given (by simpa using eq_nil_of_splitSlashes blank)
    rw [components_of_segments split longer]
    simp [last]
  · rw [components_of_segments split (by simp)]
    have blank : component? "" = none := rfl
    simp [last, blank]

/-! ## Order -/

namespace Component

/-- Components in order of their ranks, names in order of their texts. -/
def key : Component → Nat ×ₗ String
  | .root => toLex (0, "")
  | .here => toLex (1, "")
  | .up => toLex (2, "")
  | .name text => toLex (3, text)

theorem key_injective : Function.Injective key := by
  intro a b same
  cases a <;> cases b <;> simp_all [key]

theorem before_iff_key_lt {a b : Component} : a.before b = true ↔ a.key < b.key := by
  cases a <;> cases b <;> simp [before, rank, key, Prod.Lex.toLex_lt_toLex, -String.lt_iff_ltb]

end Component

theorem componentsLe_iff {as bs : List Component} :
    componentsLe as bs = true ↔ as.map Component.key ≤ bs.map Component.key := by
  rw [← not_lt]
  fun_induction componentsLe as bs with
  | case1 bs => simp
  | case2 a as => simp
  | case3 as b bs ih => simp [ih]
  | case4 a as b bs different =>
    have keys : a.key ≠ b.key := Component.key_injective.ne different
    simp [List.cons_lt_cons_iff, Component.before_iff_key_lt, keys.symm, keys.le_iff_lt]

theorem le_iff {a b : String} :
    le a b = true ↔ (components a).map Component.key ≤ (components b).map Component.key :=
  componentsLe_iff

protected theorem le_trans {a b c : String} (first : le a b = true) (second : le b c = true) :
    le a c = true :=
  le_iff.mpr ((le_iff.mp first).trans (le_iff.mp second))

protected theorem le_total (a b : String) : (le a b || le b a) = true := by
  rw [Bool.or_eq_true, le_iff, le_iff]
  exact le_total _ _

/-- Paths that come before each other have the same components. -/
theorem components_eq_of_le {a b : String} (first : le a b = true) (second : le b a = true) :
    components a = components b :=
  List.map_injective_iff.mpr Component.key_injective
    ((le_iff.mp first).antisymm (le_iff.mp second))

/-- One path comes before another: at the first difference of their components, or as a part of its
front. -/
def Precedes (a b : String) : Prop :=
  List.Lex (fun c d => c.before d = true) (components a) (components b)

theorem lex_before_iff {as bs : List Component} :
    List.Lex (fun c d => c.before d = true) as bs ↔ componentsLe as bs = true ∧ as ≠ bs := by
  have irreflexive (c : Component) : ¬ c.before c = true := by
    rw [Component.before_iff_key_lt]
    exact lt_irrefl c.key
  fun_induction componentsLe as bs with
  | case1 bs => cases bs <;> simp
  | case2 a as => simp
  | case3 as b bs ih =>
    constructor
    · rintro (_ | same | rest)
      · exact absurd same (irreflexive b)
      · obtain ⟨before, different⟩ := ih.mp rest
        exact ⟨before, by simpa using different⟩
    · rintro ⟨before, different⟩
      exact .cons (ih.mpr ⟨before, by simpa using different⟩)
  | case4 a as b bs different =>
    constructor
    · rintro (_ | before | _)
      · exact ⟨before, by simp [different]⟩
      · exact absurd rfl different
    · exact fun before => .rel before.1

theorem precedes_iff {a b : String} :
    Precedes a b ↔ le a b = true ∧ components a ≠ components b := lex_before_iff

theorem pairwise_sort (paths : List String) : (sort paths).Pairwise fun a b => le a b = true := by
  have transitive : ∀ a b c, le a b = true → le b c = true → le a c = true :=
    fun _ _ _ => Path.le_trans
  exact List.pairwise_mergeSort transitive Path.le_total paths

theorem sort_perm (paths : List String) : (sort paths).Perm paths := by
  unfold sort
  exact List.mergeSort_perm paths le

/-- Paths that are listed in any order are in one order when sorted, if no two of them are equal in
it. -/
theorem sort_eq_of_perm {paths others : List String} (perm : paths.Perm others)
    (antisymm : ∀ a ∈ paths, ∀ b ∈ paths, le a b = true → le b a = true → a = b) :
    sort paths = sort others := by
  have same := (sort_perm paths).trans (perm.trans (sort_perm others).symm)
  refine same.eq_of_pairwise (fun a b among also => ?_) (pairwise_sort paths) (pairwise_sort others)
  have listed := (sort_perm paths).mem_iff.mp among
  have also_listed := perm.mem_iff.mpr ((sort_perm others).mem_iff.mp also)
  exact antisymm a listed b also_listed

/-! ## Extensions -/

theorem extension?_eq_some_iff {name extension : String} : extension? name = some extension ↔
    ∃ stem, stem ≠ "" ∧ name = stem ++ "." ++ extension ∧ '.' ∉ extension.toList := by
  constructor
  · intro found
    simp only [extension?] at found
    split at found
    · next longer =>
      obtain rfl := Option.some.inj found
      have split := List.takeWhile_append_dropWhile (p := (· ≠ '.')) (l := name.toList.reverse)
      have stop := List.head?_dropWhile_not (fun c => decide (c ≠ '.')) name.toList.reverse
      have undotted : '.' ∉ name.toList.reverse.takeWhile (· ≠ '.') := fun mem => by
        simpa using List.mem_takeWhile_imp mem
      generalize name.toList.reverse.takeWhile (· ≠ '.') = after at longer split undotted
      generalize name.toList.reverse.dropWhile (· ≠ '.') = rest at split stop
      have chars : name.toList = rest.reverse ++ after.reverse := by
        rw [← List.reverse_append, split, List.reverse_reverse]
      rw [chars, List.length_append, List.length_reverse, List.length_reverse] at longer
      match rest with
      | [] => simp at longer
      | [dot] => simp at longer; omega
      | dot :: c :: more =>
        obtain rfl : dot = '.' := by simpa using stop
        refine ⟨String.ofList (c :: more).reverse, by simp, ?_, by simpa using undotted⟩
        rw [← String.toList_inj, chars]
        simp
    · cases found
  · rintro ⟨stem, given, rfl, undotted⟩
    have chars : (stem ++ "." ++ extension).toList.reverse =
        extension.toList.reverse ++ '.' :: stem.toList.reverse := by simp
    have last : (extension.toList.reverse ++ '.' :: stem.toList.reverse).takeWhile (· ≠ '.') =
        extension.toList.reverse := by
      rw [List.takeWhile_append_of_pos]
      · simp
      · intro c mem
        simp only [decide_eq_true_eq]
        rintro rfl
        exact undotted (List.mem_reverse.mp mem)
    have longer : 0 < stem.toList.length := List.length_pos_iff.mpr (by simpa using given)
    simp only [extension?, chars, last]
    rw [if_pos]
    · simp
    · simp
      omega

/-! ## Paths below a directory -/

/-- The path that names lead to from a directory. -/
def below (dir : String) (names : List String) : String := names.foldl join dir

def isEntryOf (dir path : String) : Bool := (fileName? path).any fun name => path = join dir name

theorem join_ne_empty {dir name : String} (isName : IsName name) : join dir name ≠ "" := by
  unfold join
  split <;> simp [isName.ne_empty]

variable {dir : String} {names others : List String}

theorem components_below (given : dir ≠ "") (valid : ∀ n ∈ names, IsName n) :
    components (below dir names) = components dir ++ names.map .name := by
  induction names generalizing dir with
  | nil => simp [below]
  | cons name names ih =>
    have isName := valid name List.mem_cons_self
    have inside : join dir name ≠ "" := join_ne_empty isName
    have rest := ih inside fun n among => valid n (List.mem_cons_of_mem name among)
    rw [below, List.foldl_cons, ← below, rest, components_join given isName]
    simp

theorem eq_of_components_below (given : dir ≠ "") (valid : ∀ n ∈ names, IsName n)
    (others_valid : ∀ n ∈ others, IsName n)
    (same : components (below dir names) = components (below dir others)) : names = others := by
  rw [components_below given valid, components_below given others_valid] at same
  have texts := List.append_cancel_left same
  exact List.map_injective_iff.mpr (fun _ _ => Component.name.inj) texts

theorem eq_of_le_below (given : dir ≠ "") (valid : ∀ n ∈ names, IsName n)
    (others_valid : ∀ n ∈ others, IsName n) (first : le (below dir names) (below dir others) = true)
    (second : le (below dir others) (below dir names) = true) :
    below dir names = below dir others := by
  rw [eq_of_components_below given valid others_valid (components_eq_of_le first second)]

theorem fileName?_below {last : String} (given : dir ≠ "") (valid : ∀ n ∈ names ++ [last], IsName n) :
    fileName? (below dir (names ++ [last])) = some last := by
  simp [fileName?, components_below given valid]

theorem isEntryOf_below (given : dir ≠ "") (valid : ∀ n ∈ names, IsName n) (inside : names ≠ []) :
    isEntryOf dir (below dir names) = true ↔ names.length = 1 := by
  obtain ⟨init, last, rfl⟩ := (List.eq_nil_or_concat' names).resolve_left inside
  have name := fileName?_below given valid
  have single : ∀ n ∈ [last], IsName n := fun n among => valid n (by simp_all)
  rw [isEntryOf, name, Option.any_some, decide_eq_true_iff, List.length_append,
    List.length_singleton]
  constructor
  · intro same
    have parts := eq_of_components_below given valid single (congrArg components same)
    simpa using congrArg List.length parts
  · intro short
    have none : init = [] := List.eq_nil_of_length_eq_zero (by omega)
    rw [none]
    rfl

theorem componentsLe_append (front as bs : List Component) :
    componentsLe (front ++ as) (front ++ bs) = componentsLe as bs := by
  induction front with
  | nil => rfl
  | cons c front ih => simp [componentsLe, ih]

theorem le_below_cons {name other : String} (given : dir ≠ "")
    (valid : ∀ n ∈ name :: names, IsName n) (others_valid : ∀ n ∈ other :: others, IsName n)
    (different : name ≠ other) :
    le (below dir (name :: names)) (below dir (other :: others)) =
      le (join dir name) (join dir other) := by
  have first := components_join given (valid name List.mem_cons_self)
  have second := components_join given (others_valid other List.mem_cons_self)
  simp only [le, components_below given valid, components_below given others_valid, first, second,
    componentsLe_append, List.map_cons]
  simp [componentsLe, different]

example : le "a/one.lox" "a-b/one.lox" = true ∧ "a-b/one.lox" < "a/one.lox" := by decide +kernel

end Conformance.Path

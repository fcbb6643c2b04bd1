import Mathlib.Data.List.Nodup
import Mathlib.Data.List.Perm.Basic
import Conformance.Tree
import Conformance.Proofs.Path

/-! # Trees listed in another order

A system may list the entries of a directory in any order. Trees that differ in nothing else have
the same files below them, and a path leads to the same place in both.
-/

namespace Conformance

namespace Tree

variable {size : String → Nat} {t u : Tree}

/-- A tree as a system holds one: the entries of a directory have names of their own, and no name is
too long. -/
inductive WellFormed (size : String → Nat) : Tree → Prop
  | file (content : List UInt8) : WellFormed size (.file content)
  | link (target : String) : WellFormed size (.link target)
  | device (kind : Device) : WellFormed size (.device kind)
  | program (name : String) : WellFormed size (.program name)
  | dir {entries : List (String × Tree)} (distinct : (entries.map Prod.fst).Nodup)
      (names : ∀ e ∈ entries, Path.IsName e.1 ∧ size e.1 ≤ maxName)
      (below : ∀ e ∈ entries, WellFormed size e.2) : WellFormed size (.dir entries)

/-- Trees that differ in the order of entries only. -/
inductive Reordered : Tree → Tree → Prop
  | leaf {t : Tree} (notDir : t.isDir = false) : Reordered t t
  | dir {entries others : List (String × Tree)}
      (names : (entries.map Prod.fst).Perm (others.map Prod.fst))
      (each : ∀ e ∈ entries, ∀ o ∈ others, e.1 = o.1 → Reordered e.2 o.2) :
      Reordered (.dir entries) (.dir others)

/-! ## Files -/

theorem filesIn_eq_flatMap (path : String) (entries : List (String × Tree)) :
    filesIn path entries = entries.flatMap fun e => e.2.files (Path.join path e.1) := by
  induction entries with
  | nil => rfl
  | cons e entries ih => rw [filesIn, ih, List.flatMap_cons]

/-- Files lie below the path of a tree, and are the tree itself only if it is no directory. -/
theorem WellFormed.exists_below (wf : WellFormed size t) {path file : String} (given : path ≠ "")
    (among : file ∈ t.files path) :
    ∃ names, (∀ n ∈ names, Path.IsName n) ∧ file = Path.below path names ∧
      (t.isDir = true ↔ names ≠ []) := by
  induction wf generalizing path with
  | file | program =>
    obtain rfl := List.mem_singleton.mp among
    exact ⟨[], nofun, rfl, by simp [isDir]⟩
  | link | device => cases among
  | dir distinct names _ ih =>
    rw [files, filesIn_eq_flatMap, List.mem_flatMap] at among
    obtain ⟨e, listed, among⟩ := among
    have isName := (names e listed).1
    obtain ⟨rest, valid, same, -⟩ := ih e listed (Path.join_ne_empty isName) among
    exact ⟨e.1 :: rest, by simpa [isName] using valid, same, by simp [isDir]⟩

theorem exists_mem_of_perm_names {entries others : List (String × Tree)} {e : String × Tree}
    (names : (entries.map Prod.fst).Perm (others.map Prod.fst)) (listed : e ∈ entries) :
    ∃ o ∈ others, o.1 = e.1 := by
  have among := names.subset (List.mem_map_of_mem listed)
  obtain ⟨o, listed, same⟩ := List.mem_map.mp among
  exact ⟨o, listed, same⟩

theorem WellFormed.reordered_refl (wf : WellFormed size t) : t.Reordered t := by
  induction wf with
  | file | link | device | program => exact .leaf rfl
  | dir distinct _ _ ih =>
    refine .dir (.refl _) fun e among o listed same => ?_
    rw [← List.inj_on_of_nodup_map distinct among listed same]
    exact ih e among

theorem WellFormed.reordered_of_perm {entries others : List (String × Tree)}
    (wf : WellFormed size (.dir entries)) (perm : entries.Perm others) :
    Reordered (.dir entries) (.dir others) := by
  cases wf with | dir distinct _ below =>
  refine .dir (perm.map _) fun e among o listed same => ?_
  rw [← List.inj_on_of_nodup_map distinct among (perm.mem_iff.mpr listed) same]
  exact (below e among).reordered_refl

theorem Reordered.symm (h : Reordered t u) : Reordered u t := by
  induction h with
  | leaf notDir => exact .leaf notDir
  | dir names _ ih =>
    exact .dir names.symm fun o listed e among same => ih e among o listed same.symm

theorem Reordered.isDir_eq (h : Reordered t u) : t.isDir = u.isDir := by
  cases h <;> rfl

theorem Reordered.wellFormed (h : Reordered t u) (wf : WellFormed size t) : WellFormed size u := by
  induction h with
  | leaf _ => exact wf
  | @dir entries others perm _ ih =>
    cases wf with | dir distinct names inside =>
    refine .dir (perm.nodup_iff.mp distinct) (fun o listed => ?_) fun o listed => ?_
    · obtain ⟨e, among, same⟩ := exists_mem_of_perm_names perm.symm listed
      exact same ▸ names e among
    · obtain ⟨e, among, same⟩ := exists_mem_of_perm_names perm.symm listed
      exact ih e among o listed same (inside e among)

theorem flatMap_perm {α : Type} {F G : String × Tree → List α}
    {entries others : List (String × Tree)}
    (names : (entries.map Prod.fst).Perm (others.map Prod.fst))
    (each : ∀ e ∈ entries, ∀ o ∈ others, e.1 = o.1 → (F e).Perm (G o)) :
    (entries.flatMap F).Perm (others.flatMap G) := by
  induction entries generalizing others with
  | nil =>
    have none : others = [] := by simpa using names
    rw [none]
    rfl
  | cons e entries ih =>
    obtain ⟨o, listed, same⟩ := exists_mem_of_perm_names names List.mem_cons_self
    obtain ⟨front, back, rfl⟩ := List.append_of_mem listed
    have rest : (entries.map Prod.fst).Perm ((front ++ back).map Prod.fst) := by
      refine List.Perm.cons_inv (a := e.1) (names.trans ?_)
      simp [same]
    have kept : front ++ back ⊆ front ++ o :: back :=
      ((List.sublist_cons_self o back).append_left front).subset
    have others := ih rest fun e' among o' also =>
      each e' (List.mem_cons_of_mem e among) o' (kept also)
    have first := each e List.mem_cons_self o listed same.symm
    refine (first.append others).trans ?_
    simp only [List.flatMap_append, List.flatMap_cons]
    exact List.perm_append_comm_assoc _ _ _

theorem Reordered.files_perm (h : Reordered t u) (path : String) :
    (t.files path).Perm (u.files path) := by
  induction h generalizing path with
  | leaf _ => rfl
  | dir names _ ih =>
    rw [files, files, filesIn_eq_flatMap, filesIn_eq_flatMap]
    exact flatMap_perm names fun e among o listed same => same ▸ ih e among o listed same _

/-! ## Following paths -/

theorem find?_eq_some_iff_mem {entries : List (String × Tree)}
    (distinct : (entries.map Prod.fst).Nodup) {name : String} {e : String × Tree} :
    (entries.find? fun e => e.1 = name) = some e ↔ e ∈ entries ∧ e.1 = name := by
  constructor
  · intro found
    exact ⟨List.mem_of_find?_eq_some found, by simpa using List.find?_some found⟩
  · rintro ⟨listed, rfl⟩
    induction entries with
    | nil => cases listed
    | cons first rest ih =>
      rw [List.map_cons, List.nodup_cons] at distinct
      rcases List.mem_cons.mp listed with rfl | later
      · simp
      · have other : first.1 ≠ e.1 := by
          intro same
          exact distinct.1 (same ▸ List.mem_map_of_mem later)
        rw [List.find?_cons_of_neg (by simpa using other)]
        exact ih distinct.2 later

theorem entry?_eq_some_iff {entries : List (String × Tree)}
    (distinct : (entries.map Prod.fst).Nodup) {name : String} {t : Tree} :
    entry? name (.dir entries) = some t ↔ (name, t) ∈ entries := by
  unfold entry?
  rw [Option.map_eq_some_iff]
  constructor
  · rintro ⟨e, found, rfl⟩
    obtain ⟨listed, rfl⟩ := (find?_eq_some_iff_mem distinct).mp found
    exact listed
  · intro listed
    exact ⟨(name, t), (find?_eq_some_iff_mem distinct).mpr ⟨listed, rfl⟩, rfl⟩

theorem WellFormed.get? (wf : WellFormed size t) {place : List String}
    (found : t.get? place = some u) : WellFormed size u := by
  induction place generalizing t with
  | nil =>
    obtain rfl := Option.some.inj found
    exact wf
  | cons name place ih =>
    obtain ⟨v, entry, onward⟩ := Option.bind_eq_some_iff.mp found
    cases wf with
    | dir distinct _ inside => exact ih (inside _ ((entry?_eq_some_iff distinct).mp entry)) onward
    | file | link | device | program => cases entry

theorem Reordered.get? (h : Reordered t u) (wf : WellFormed size t) {place : List String}
    {v : Tree} (found : t.get? place = some v) : ∃ w, u.get? place = some w ∧ Reordered v w := by
  induction place generalizing t u with
  | nil =>
    obtain rfl := Option.some.inj found
    exact ⟨u, rfl, h⟩
  | cons name place ih =>
    obtain ⟨s, entry, onward⟩ := Option.bind_eq_some_iff.mp found
    cases h with
    | leaf notDir => cases t <;> first | cases entry | cases notDir
    | dir names each =>
      have wf' := (Reordered.dir names each).wellFormed wf
      cases wf with | dir distinct _ inside =>
      cases wf' with | dir distinct' _ _ =>
      have listed := (entry?_eq_some_iff distinct).mp entry
      obtain ⟨o, among, same⟩ := exists_mem_of_perm_names names listed
      obtain ⟨w, found', reordered⟩ := ih (each _ listed o among same.symm) (inside _ listed) onward
      refine ⟨w, ?_, reordered⟩
      have entry' : entry? name (.dir _) = some o.2 := (entry?_eq_some_iff distinct').mpr (by
        subst same
        exact among)
      rw [Tree.get?, entry']
      exact found'

theorem Reordered.get?_eq_none (h : Reordered t u) (wf : WellFormed size t) {place : List String}
    (missing : t.get? place = none) : u.get? place = none := by
  by_contra given
  obtain ⟨w, found⟩ := Option.ne_none_iff_exists'.mp given
  obtain ⟨v, found, -⟩ := h.symm.get? (h.wellFormed wf) found
  rw [missing] at found
  cases found

theorem Reordered.get?_leaf (h : Reordered t u) (wf : WellFormed size t) {place : List String}
    {v : Tree} (notDir : v.isDir = false) (found : t.get? place = some v) :
    u.get? place = some v := by
  obtain ⟨w, found, reordered⟩ := h.get? wf found
  cases reordered with
  | leaf _ => exact found
  | dir => cases notDir

theorem isDir_eq_false (notDir : ∀ entries, t = .dir entries → False) : t.isDir = false := by
  cases t with
  | dir entries => exact (notDir entries rfl).elim
  | file | link | device | program => rfl

/-! ### One segment -/

/-- A segment that is looked up in the directory: it neither stays there nor goes up, and it is not
too long. -/
structure LooksUp (size : String → Nat) (segment : String) : Prop where
  moves : ¬(segment = "" ∨ segment = ".")
  not_up : segment ≠ ".."
  fits : ¬ maxName < size segment

theorem looksUp_of_isName {name : String} (isName : Path.IsName name) (short : size name ≤ maxName) :
    LooksUp size name where
  moves := not_or.mpr ⟨isName.ne_empty, isName.ne_here⟩
  not_up := isName.ne_up
  fits := Nat.not_lt.mpr short

section Step

variable {last : Bool} {links : Nat} {here rest parts : List String} {segment target : String}
  {entries : List (String × Tree)}

theorem follow_stay (stays : segment = "" ∨ segment = ".") :
    t.follow size last links here (segment :: rest) = t.follow size last links here rest := by
  rw [follow, if_pos stays]

theorem follow_up (moves : ¬(segment = "" ∨ segment = ".")) (up : segment = "..") :
    t.follow size last links here (segment :: rest) =
      t.follow size last links here.dropLast rest := by
  rw [follow, if_neg moves, if_pos up]

theorem follow_long (moves : ¬(segment = "" ∨ segment = ".")) (not_up : segment ≠ "..")
    (long : maxName < size segment) :
    t.follow size last links here (segment :: rest) = .error .nameTooLong := by
  rw [follow, if_neg moves, if_neg not_up, if_pos long]

theorem follow_missing (looks : LooksUp size segment) (missing : t.get? (here ++ [segment]) = none) :
    t.follow size last links here (segment :: rest) =
      if rest.isEmpty then .ok ⟨here ++ [segment], false⟩ else .error .missing := by
  rw [follow, if_neg looks.moves, if_neg looks.not_up, if_neg looks.fits, missing]

theorem follow_dir (looks : LooksUp size segment)
    (found : t.get? (here ++ [segment]) = some (.dir entries)) :
    t.follow size last links here (segment :: rest) =
      t.follow size last links (here ++ [segment]) rest := by
  rw [follow, if_neg looks.moves, if_neg looks.not_up, if_neg looks.fits, found]

theorem follow_leaf (looks : LooksUp size segment) (found : t.get? (here ++ [segment]) = some u)
    (not_dir : ∀ entries, u = .dir entries → False) (not_link : ∀ target, u = .link target → False) :
    t.follow size last links here (segment :: rest) =
      if rest.isEmpty then .ok ⟨here ++ [segment], true⟩ else .error .notDirectory := by
  rw [follow, if_neg looks.moves, if_neg looks.not_up, if_neg looks.fits, found]
  cases u with
  | dir entries => exact (not_dir entries rfl).elim
  | link target => exact (not_link target rfl).elim
  | file | device | program => rfl

theorem follow_link_self (looks : LooksUp size segment)
    (found : t.get? (here ++ [segment]) = some (.link target)) (self : rest.isEmpty && !last) :
    t.follow size last links here (segment :: rest) = .ok ⟨here ++ [segment], true⟩ := by
  rw [follow, if_neg looks.moves, if_neg looks.not_up, if_neg looks.fits, found]
  exact if_pos self

theorem follow_link_zero (looks : LooksUp size segment)
    (found : t.get? (here ++ [segment]) = some (.link target)) (onward : ¬(rest.isEmpty && !last)) :
    t.follow size last 0 here (segment :: rest) = .error .tooManyLinks := by
  rw [follow, if_neg looks.moves, if_neg looks.not_up, if_neg looks.fits, found]
  exact if_neg onward

theorem follow_link_blank (looks : LooksUp size segment)
    (found : t.get? (here ++ [segment]) = some (.link target)) (onward : ¬(rest.isEmpty && !last))
    (blank : Path.segments target = [""]) :
    t.follow size last (links + 1) here (segment :: rest) = .error .missing := by
  rw [follow, if_neg looks.moves, if_neg looks.not_up, if_neg looks.fits, found]
  simp only [if_neg onward, blank]

theorem follow_link_rooted (looks : LooksUp size segment)
    (found : t.get? (here ++ [segment]) = some (.link target)) (onward : ¬(rest.isEmpty && !last))
    (rooted : Path.segments target = "" :: parts) (more : parts = [] → False) :
    t.follow size last (links + 1) here (segment :: rest) =
      t.follow size last links [] (parts ++ rest) := by
  rw [follow, if_neg looks.moves, if_neg looks.not_up, if_neg looks.fits, found]
  simp only [if_neg onward, rooted]

theorem follow_link_relative (looks : LooksUp size segment)
    (found : t.get? (here ++ [segment]) = some (.link target)) (onward : ¬(rest.isEmpty && !last))
    (given : Path.segments target = [""] → False)
    (relative : ∀ parts, Path.segments target = "" :: parts → False) :
    t.follow size last (links + 1) here (segment :: rest) =
      t.follow size last links here (Path.segments target ++ rest) := by
  rw [follow, if_neg looks.moves, if_neg looks.not_up, if_neg looks.fits, found]
  simp only [if_neg onward]

end Step

/-! ### The whole path -/

theorem Reordered.follow_eq (h : Reordered t u) (wf : WellFormed size t) (measure : String → Nat)
    (last : Bool) (links : Nat) (here segments : List String) :
    t.follow measure last links here segments = u.follow measure last links here segments := by
  -- The path is followed in both trees at once: each step looks at one place, which is missing in
  -- both, a directory in both, or the same leaf in both.
  fun_induction follow t measure last links here segments with
  | case1 => rw [follow]
  | case2 _ _ _ _ stays ih => rw [follow_stay stays, ih]
  | case3 _ _ _ moves ih => rw [follow_up moves rfl, ih]
  | case4 _ _ _ _ moves not_up long => rw [follow_long moves not_up long]
  | case5 _ _ _ _ moves not_up fits missing atEnd =>
    rw [follow_missing ⟨moves, not_up, fits⟩ (h.get?_eq_none wf missing), if_pos atEnd]
  | case6 _ _ _ _ moves not_up fits missing onward =>
    rw [follow_missing ⟨moves, not_up, fits⟩ (h.get?_eq_none wf missing), if_neg onward]
  | case7 _ _ _ _ moves not_up fits entries found ih =>
    obtain ⟨w, found, reordered⟩ := h.get? wf found
    cases reordered with
    | leaf notDir => cases notDir
    | dir => rw [follow_dir ⟨moves, not_up, fits⟩ found, ih]
  | case8 _ _ _ _ moves not_up fits target found self =>
    rw [follow_link_self ⟨moves, not_up, fits⟩ (h.get?_leaf wf rfl found) self]
  | case9 _ _ _ moves not_up fits target found onward =>
    rw [follow_link_zero ⟨moves, not_up, fits⟩ (h.get?_leaf wf rfl found) onward]
  | case10 _ _ _ moves not_up fits target found onward links blank =>
    rw [follow_link_blank ⟨moves, not_up, fits⟩ (h.get?_leaf wf rfl found) onward blank]
  | case11 _ _ _ moves not_up fits target found onward links parts more rooted ih =>
    rw [follow_link_rooted ⟨moves, not_up, fits⟩ (h.get?_leaf wf rfl found) onward rooted more, ih]
  | case12 _ _ _ moves not_up fits target found onward links given relative ih =>
    rw [follow_link_relative ⟨moves, not_up, fits⟩ (h.get?_leaf wf rfl found) onward given relative,
      ih]
  | case13 _ _ _ _ moves not_up fits leaf notDir notLink found atEnd =>
    have same := h.get?_leaf wf (isDir_eq_false notDir) found
    rw [follow_leaf ⟨moves, not_up, fits⟩ same notDir notLink, if_pos atEnd]
  | case14 _ _ _ _ moves not_up fits leaf notDir notLink found onward =>
    have same := h.get?_leaf wf (isDir_eq_false notDir) found
    rw [follow_leaf ⟨moves, not_up, fits⟩ same notDir notLink, if_neg onward]

/-- Names after a path to a directory are followed from there, whether or not the path ends with a
slash. -/
theorem follow_through {measure : String → Nat} {links : Nat} {here parts tail place : List String}
    {entries : List (String × Tree)} (blank : tail = [] ∨ tail = [""])
    (found : t.follow measure true links here (parts ++ tail) = .ok ⟨place, true⟩)
    (isDir : t.get? place = some (.dir entries)) :
    ∃ left, ∀ name rest, t.follow measure true links here (parts ++ name :: rest) =
      t.follow measure true left place (name :: rest) := by
  -- Only the empty tail can stop at the place itself; what is followed before it does not depend on
  -- the tail. The branches that stop earlier contradict `found` or `isDir`.
  have onward (rest : List String) : ¬(rest.isEmpty && !true) := by simp
  fun_induction follow t measure true links here parts with
  | case1 links here =>
    have same : here = place := by rcases blank with rfl | rfl <;> simpa [follow] using found
    exact ⟨links, fun _ _ => by rw [List.nil_append, same]⟩
  | case2 _ _ _ _ stays ih =>
    rw [List.cons_append, follow_stay stays] at found
    obtain ⟨left, through⟩ := ih found
    exact ⟨left, fun _ _ => by rw [List.cons_append, follow_stay stays, through]⟩
  | case3 _ _ _ moves ih =>
    rw [List.cons_append, follow_up moves rfl] at found
    obtain ⟨left, through⟩ := ih found
    exact ⟨left, fun _ _ => by rw [List.cons_append, follow_up moves rfl, through]⟩
  | case7 _ _ _ _ moves not_up fits entries way ih =>
    have looks : LooksUp measure _ := ⟨moves, not_up, fits⟩
    rw [List.cons_append, follow_dir looks way] at found
    obtain ⟨left, through⟩ := ih found
    exact ⟨left, fun _ _ => by rw [List.cons_append, follow_dir looks way, through]⟩
  | case11 _ _ _ moves not_up fits target way _ links parts more rooted ih =>
    have looks : LooksUp measure _ := ⟨moves, not_up, fits⟩
    rw [List.cons_append, follow_link_rooted looks way (onward _) rooted more,
      ← List.append_assoc] at found
    obtain ⟨left, through⟩ := ih found
    refine ⟨left, fun _ _ => ?_⟩
    rw [List.cons_append, follow_link_rooted looks way (onward _) rooted more, ← List.append_assoc,
      through]
  | case12 _ _ _ moves not_up fits target way _ links given relative ih =>
    have looks : LooksUp measure _ := ⟨moves, not_up, fits⟩
    rw [List.cons_append, follow_link_relative looks way (onward _) given relative,
      ← List.append_assoc] at found
    obtain ⟨left, through⟩ := ih found
    refine ⟨left, fun _ _ => ?_⟩
    rw [List.cons_append, follow_link_relative looks way (onward _) given relative,
      ← List.append_assoc, through]
  | case4 _ _ _ _ moves not_up long =>
    rw [List.cons_append, follow_long moves not_up long] at found
    cases found
  | case5 _ _ _ _ moves not_up fits missing | case6 _ _ _ _ moves not_up fits missing =>
    rw [List.cons_append, follow_missing ⟨moves, not_up, fits⟩ missing] at found
    split at found <;> cases found
  | case8 _ _ _ _ _ _ _ _ _ self => exact (onward _ self).elim
  | case9 _ _ _ moves not_up fits target way =>
    rw [List.cons_append, follow_link_zero ⟨moves, not_up, fits⟩ way (onward _)] at found
    cases found
  | case10 _ _ _ moves not_up fits target way _ links blank =>
    rw [List.cons_append, follow_link_blank ⟨moves, not_up, fits⟩ way (onward _) blank] at found
    cases found
  | case13 _ _ _ _ moves not_up fits leaf notDir notLink way
    | case14 _ _ _ _ moves not_up fits leaf notDir notLink way =>
    rw [List.cons_append, follow_leaf ⟨moves, not_up, fits⟩ way notDir notLink] at found
    split at found
    · cases found
      exact (notDir _ (Option.some.inj (way.symm.trans isDir))).elim
    · cases found

theorem get?_snoc (t : Tree) (place : List String) (name : String) :
    t.get? (place ++ [name]) = (t.get? place).bind fun u => u.entry? name := by
  induction place generalizing t with
  | nil => cases h : t.entry? name <;> simp [Tree.get?, h]
  | cons first place ih => cases h : t.entry? first <;> simp [Tree.get?, h, ih]

end Tree

namespace Files

variable {f g : Files} {root name : String} {entries inside : List (String × Tree)}

/-- The same files, with the entries of directories listed in another order. -/
structure Reordered (f g : Files) : Prop where
  top : f.top.Reordered g.top
  here : f.here = g.here
  isRaw : f.isRaw = g.isRaw

theorem Reordered.sizeOf_eq (h : f.Reordered g) : f.sizeOf = g.sizeOf := by
  funext text
  simp only [sizeOf, h.isRaw]

theorem Reordered.find_eq (h : f.Reordered g) (wf : f.top.WellFormed f.sizeOf) (path : String)
    (last : Bool) : f.find path last = g.find path last := by
  simp only [find, h.sizeOf_eq, h.here, h.top.follow_eq wf]

theorem at?_eq_some_iff {path : String} {t : Tree} :
    f.at? path = some t ↔ ∃ place, f.find path = .ok ⟨place, true⟩ ∧ f.top.get? place = some t := by
  unfold at? locate?
  split
  · next place found => simp [found]
  · next other =>
    simp only [Option.bind_none, reduceCtorEq, false_iff]
    rintro ⟨place, found, -⟩
    exact other place found

theorem Reordered.at? (h : f.Reordered g) (wf : f.top.WellFormed f.sizeOf) {path : String}
    {t : Tree} (found : f.at? path = some t) : ∃ u, g.at? path = some u ∧ t.Reordered u := by
  obtain ⟨place, leads, found⟩ := at?_eq_some_iff.mp found
  obtain ⟨u, found, reordered⟩ := h.top.get? wf found
  exact ⟨u, at?_eq_some_iff.mpr ⟨place, h.find_eq wf path true ▸ leads, found⟩, reordered⟩

/-- A directory and the directories in it can be listed: its tree is well-formed, and no path is too
long. -/
structure Readable (f : Files) (root : String) : Prop where
  wellFormed : f.top.WellFormed f.sizeOf
  isDir : ∃ entries, f.at? root = some (.dir entries)
  fits : ∀ entries, f.at? root = some (.dir entries) →
    ∀ e ∈ entries, e.2.isDir = true → f.sizeOf (Path.join root e.1) ≤ Tree.maxPath

theorem Reordered.readable (h : f.Reordered g) (readable : f.Readable root) : g.Readable root := by
  obtain ⟨wf, ⟨entries, leads⟩, fits⟩ := readable
  obtain ⟨u, leads', reordered⟩ := h.at? wf leads
  cases reordered with
  | leaf notDir => cases notDir
  | @dir _ others names each =>
    have wf' : g.top.WellFormed g.sizeOf := h.sizeOf_eq ▸ h.top.wellFormed wf
    refine ⟨wf', ⟨others, leads'⟩, fun listing again o listed isDir => ?_⟩
    obtain rfl : others = listing := by simpa [leads'] using again
    obtain ⟨e, among, same⟩ := Tree.exists_mem_of_perm_names names.symm listed
    have alike := each e among o listed same
    rw [← h.sizeOf_eq, ← same]
    exact fits entries leads e among (alike.isDir_eq ▸ isDir)

/-- A path that can be followed: a text without the null character that is not too long. -/
structure Accepts (f : Files) (path : String) : Prop where
  given : path ≠ ""
  no_null : '\x00' ∉ path.toList
  fits : f.sizeOf path ≤ Tree.maxPath

theorem accepts_of_find {path : String} {last : Bool} {spot : Tree.Spot}
    (found : f.find path last = .ok spot) : f.Accepts path := by
  unfold find at found
  split at found
  · cases found
  · next valid =>
    split at found
    · cases found
    · next fits =>
      rw [not_or] at valid
      exact ⟨by simpa using valid.1, by simpa using valid.2, Nat.not_lt.mp fits⟩

theorem Accepts.find_eq {path first : String} {rest : List String} (h : f.Accepts path)
    (split : Path.segments path = first :: rest) (last : Bool) :
    f.find path last = f.top.follow f.sizeOf last Tree.maxLinks
      (if first = "" then [] else f.here) (first :: rest) := by
  have valid : ¬(path.isEmpty = true ∨ path.toList.contains '\x00' = true) := by
    simp [h.given, h.no_null]
  rw [find, if_neg valid, if_neg (Nat.not_lt.mpr h.fits), split]
  by_cases rooted : first = ""
  · subst rooted
    simp [Tree.follow]
  · simp [rooted]

theorem Accepts.join (h : f.Accepts root) (isName : Path.IsName name)
    (fits : f.sizeOf (Path.join root name) ≤ Tree.maxPath) : f.Accepts (Path.join root name) where
  given := Path.join_ne_empty isName
  no_null := by
    unfold Path.join
    split <;> simp [h.no_null, isName.no_null]
  fits := fits

theorem at?_join (wf : f.top.WellFormed f.sizeOf) (leads : f.at? root = some (.dir entries))
    (listed : (name, .dir inside) ∈ entries)
    (fits : f.sizeOf (Path.join root name) ≤ Tree.maxPath) :
    f.at? (Path.join root name) = some (.dir inside) := by
  obtain ⟨place, leads, found⟩ := at?_eq_some_iff.mp leads
  cases wf.get? found with | dir distinct names below =>
  obtain ⟨isName, short⟩ : Path.IsName name ∧ f.sizeOf name ≤ Tree.maxName := names _ listed
  have inDir : f.top.get? (place ++ [name]) = some (.dir inside) := by
    rw [Tree.get?_snoc, found]
    exact (Tree.entry?_eq_some_iff distinct).mpr listed
  refine at?_eq_some_iff.mpr ⟨place ++ [name], ?_, inDir⟩
  have valid := accepts_of_find leads
  have joined := valid.join isName fits
  obtain ⟨parts, inhabited, split_join, split_root⟩ := Path.exists_segments_join valid.given isName
  obtain ⟨first, rest, rfl⟩ := List.exists_cons_of_ne_nil inhabited
  rw [List.cons_append] at split_join
  obtain ⟨tail, blank, split_root⟩ : ∃ tail, (tail = [] ∨ tail = [""]) ∧
      Path.segments root = first :: (rest ++ tail) := by
    rcases split_root with split | split
    · exact ⟨[], .inl rfl, by rw [split, List.append_nil]⟩
    · exact ⟨[""], .inr rfl, split⟩
  rw [valid.find_eq split_root, ← List.cons_append] at leads
  obtain ⟨left, onward⟩ := Tree.follow_through blank leads found
  rw [joined.find_eq split_join, ← List.cons_append, onward,
    Tree.follow_dir (Tree.looksUp_of_isName isName short) inDir, Tree.follow]

theorem at?_only {t : Tree} (isName : Path.IsName name) (short : name.utf8ByteSize ≤ Tree.maxName)
    (no_link : ∀ target, t ≠ .link target) :
    ({ top := .dir [(name, t)] } : Files).at? name = some t := by
  let only : Files := { top := .dir [(name, t)] }
  have found : only.top.get? [name] = some t := by simp [only, Tree.get?, Tree.entry?]
  have valid : only.Accepts name :=
    ⟨isName.ne_empty, isName.no_null, Nat.le_trans short (by decide)⟩
  have looks : Tree.LooksUp only.sizeOf name := Tree.looksUp_of_isName isName short
  refine at?_eq_some_iff.mpr ⟨[name], ?_, found⟩
  rw [valid.find_eq (Path.segments_of_isName isName), if_neg isName.ne_empty]
  cases t with
  | link target => exact absurd rfl (no_link target)
  | dir entries => rw [Tree.follow_dir looks found, Tree.follow]; rfl
  | file content | device kind | program name =>
    rw [Tree.follow_leaf looks found (by simp) no_link]
    rfl

end Files

end Conformance

import Conformance.Proofs.Diagnostic
import Conformance.Proofs.WholeFixture
import Mathlib.Data.List.Nodup

/-! # Compile errors as an ordered set

Expected compile errors are kept in the order in which they were first added, each once. An addition
leaves those before it in place, and puts an error at the end if it is not among them. The errors
are normal forms, so different diagnostics stay different errors.
-/

namespace Conformance

open Conformance.Text

namespace Expectations

variable {e : Expectations} {known added new new' : List String} {error : String}

def addErrors (e : Expectations) (added : List String) : Expectations :=
  added.foldl addError e

/-- The errors that `added` brings to `known`, in the order of their first addition. -/
structure IsNew (known added new : List String) : Prop where
  mem_iff : ∀ error, error ∈ new ↔ error ∈ added ∧ error ∉ known
  order : new.Pairwise fun a b => added.idxOf a < added.idxOf b

theorem addError_of_mem (known : error ∈ e.errors) : e.addError error = e :=
  if_pos known

theorem addError_of_not_mem (absent : error ∉ e.errors) :
    e.addError error = { e with errors := e.errors ++ [error] } :=
  if_neg absent

theorem addErrors_append_singleton (e : Expectations) (added : List String) (error : String) :
    e.addErrors (added ++ [error]) = (e.addErrors added).addError error := by
  rw [addErrors, List.foldl_append]
  rfl

/-! ## New errors -/

/-- A later addition moves no first place. -/
theorem IsNew.order_append (h : IsNew known added new) (error : String) :
    new.Pairwise fun a b => (added ++ [error]).idxOf a < (added ++ [error]).idxOf b := by
  refine h.order.imp_of_mem ?_
  intro a b a_new b_new before
  have a_added := ((h.mem_iff a).mp a_new).1
  have b_added := ((h.mem_iff b).mp b_new).1
  rwa [List.idxOf_append_of_mem a_added, List.idxOf_append_of_mem b_added]

theorem IsNew.repeated (h : IsNew known added new) (old : error ∈ known ++ new) :
    IsNew known (added ++ [error]) new := by
  refine ⟨?_, h.order_append error⟩
  intro other
  rw [h.mem_iff, List.mem_append, List.mem_singleton]
  constructor
  · rintro ⟨before, unknown⟩
    exact ⟨Or.inl before, unknown⟩
  · rintro ⟨before | rfl, unknown⟩
    · exact ⟨before, unknown⟩
    · exact (h.mem_iff other).mp ((List.mem_append.mp old).resolve_left unknown)

theorem IsNew.first (h : IsNew known added new) (unseen : error ∉ known ++ new) :
    IsNew known (added ++ [error]) (new ++ [error]) := by
  rw [List.mem_append, not_or] at unseen
  obtain ⟨unknown, not_new⟩ := unseen
  have not_added : error ∉ added := by
    intro before
    exact not_new ((h.mem_iff error).mpr ⟨before, unknown⟩)
  constructor
  · intro other
    rw [List.mem_append, List.mem_append, List.mem_singleton, h.mem_iff]
    constructor
    · rintro (⟨before, other_unknown⟩ | rfl)
      · exact ⟨Or.inl before, other_unknown⟩
      · exact ⟨Or.inr rfl, unknown⟩
    · rintro ⟨before | rfl, other_unknown⟩
      · exact Or.inl ⟨before, other_unknown⟩
      · exact Or.inr rfl
  · refine List.pairwise_append.mpr ⟨h.order_append error, List.pairwise_singleton _ _, ?_⟩
    intro a a_new b last
    obtain rfl := List.mem_singleton.mp last
    have a_added := ((h.mem_iff a).mp a_new).1
    have within := List.idxOf_lt_length_of_mem a_added
    rw [List.idxOf_append_of_mem a_added, List.idxOf_append_of_notMem not_added]
    omega

theorem IsNew.nodup (h : IsNew known added new) : new.Nodup := by
  refine h.order.imp ?_
  rintro a b before rfl
  omega

theorem IsNew.nodup_append (h : IsNew known added new) (once : known.Nodup) :
    (known ++ new).Nodup := by
  refine once.append h.nodup (List.disjoint_left.mpr ?_)
  intro error is_known is_new
  exact ((h.mem_iff error).mp is_new).2 is_known

theorem IsNew.unique (h : IsNew known added new) (h' : IsNew known added new') : new = new' := by
  have same : new.Perm new' := by
    rw [List.perm_ext_iff_of_nodup h.nodup h'.nodup]
    intro error
    rw [h.mem_iff, h'.mem_iff]
  refine same.eq_of_pairwise ?_ h.order h'.order
  intro a b _ _ before after
  omega

theorem isNew_of_nodup (different : added.Nodup) (unknown : ∀ error ∈ added, error ∉ known) :
    IsNew known added added := by
  constructor
  · intro error
    exact ⟨fun mem => ⟨mem, unknown error mem⟩, And.left⟩
  · rw [List.pairwise_iff_getElem]
    intro i j i_lt j_lt before
    rwa [different.idxOf_getElem, different.idxOf_getElem]

/-! ## Adding errors -/

theorem exists_isNew_addError (e : Expectations) (h : IsNew e.errors added new) (error : String) :
    ∃ new', IsNew e.errors (added ++ [error]) new' ∧
      { e with errors := e.errors ++ new }.addError error =
        { e with errors := e.errors ++ new' } := by
  by_cases old : error ∈ e.errors ++ new
  · exact ⟨new, h.repeated old, addError_of_mem old⟩
  · refine ⟨new ++ [error], h.first old, ?_⟩
    rw [addError_of_not_mem old, List.append_assoc]

/-- Additions put the new errors behind those that were there, and change nothing else. -/
theorem exists_isNew_addErrors (e : Expectations) (added : List String) :
    ∃ new, IsNew e.errors added new ∧ e.addErrors added = { e with errors := e.errors ++ new } := by
  -- `IsNew` speaks of first places in all that was added so far, so the last addition is split off.
  induction added using List.reverseRecOn with
  | nil =>
    refine ⟨[], isNew_of_nodup List.nodup_nil (by simp), ?_⟩
    rw [List.append_nil]
    rfl
  | append_singleton added error ih =>
    obtain ⟨new, isNew, reached⟩ := ih
    rw [addErrors_append_singleton, reached]
    exact exists_isNew_addError e isNew error

theorem mem_addErrors_iff (e : Expectations) (added : List String) (error : String) :
    error ∈ (e.addErrors added).errors ↔ error ∈ e.errors ∨ error ∈ added := by
  obtain ⟨new, isNew, reached⟩ := exists_isNew_addErrors e added
  rw [reached, List.mem_append, isNew.mem_iff]
  tauto

theorem addErrors_of_subset (present : ∀ error ∈ added, error ∈ e.errors) :
    e.addErrors added = e := by
  induction added with
  | nil => rfl
  | cons error rest ih =>
    obtain ⟨here, behind⟩ := List.forall_mem_cons.mp present
    rw [addErrors, List.foldl_cons, addError_of_mem here]
    exact ih behind

theorem errors_addErrors_normalForm {ds : List Diagnostic} (different : ds.Nodup)
    (digits : ∀ d ∈ ds, ∀ c ∈ d.line, isDigit c = true)
    (unknown : ∀ d ∈ ds, d.normalForm ∉ e.errors) :
    (e.addErrors (ds.map Diagnostic.normalForm)).errors =
      e.errors ++ ds.map Diagnostic.normalForm := by
  have forms_different : (ds.map Diagnostic.normalForm).Nodup := by
    refine different.map_on ?_
    intro d mem d' mem' same
    exact Diagnostic.normalForm_injective (digits d mem) (digits d' mem') same
  have all_new := isNew_of_nodup forms_different (List.forall_mem_map.mpr unknown)
  obtain ⟨new, isNew, reached⟩ := exists_isNew_addErrors e (ds.map Diagnostic.normalForm)
  rw [reached, isNew.unique all_new]

/-- Added to nothing, the errors that are kept are the first of each. -/
theorem errors_addErrors_nil (added : List String) :
    (addErrors {} added).errors = added.eraseDups := by
  induction added using List.reverseRecOn with
  | nil => rfl
  | append_singleton added error ih =>
    rw [addErrors_append_singleton, Fixture.addError_errors ih]

end Expectations

theorem Fixture.errors_nodup_of_read {options : ReadingOptions} {path source : String}
    {e : Expectations} (h : read options path source = .ok e) : e.errors.Nodup := by
  obtain ⟨-, rfl⟩ := eq_sum_of_read h
  rw [sum, ← Expectations.errors_addErrors_nil]
  obtain ⟨new, isNew, reached⟩ :=
    Expectations.exists_isNew_addErrors {} ((directives options source).filterMap Placed.error?)
  rw [reached]
  exact isNew.nodup_append List.nodup_nil

/-- Expected errors are a set in the order of first addition, and tell their diagnostics. -/
theorem Expectations.errors_ordered_set (e : Expectations) (once : e.errors.Nodup)
    (added : List String) :
    (∃ new, IsNew e.errors added new ∧
      e.addErrors added = { e with errors := e.errors ++ new }) ∧
    (e.addErrors added).errors.Nodup ∧
    (∀ error, error ∈ (e.addErrors added).errors ↔ error ∈ e.errors ∨ error ∈ added) ∧
    (e.addErrors added).addErrors added = e.addErrors added ∧
    (∀ line line' message message' : String, (∀ c ∈ line.toList, isDigit c = true) →
      (∀ c ∈ line'.toList, isDigit c = true) →
      Diagnostic.format line message = Diagnostic.format line' message' →
      line = line' ∧ message = message') ∧
    ∀ ds : List Diagnostic, ds.Nodup → (∀ d ∈ ds, ∀ c ∈ d.line, isDigit c = true) →
      (∀ d ∈ ds, d.normalForm ∉ e.errors) →
      (e.addErrors (ds.map Diagnostic.normalForm)).errors =
        e.errors ++ ds.map Diagnostic.normalForm := by
  obtain ⟨new, isNew, reached⟩ := exists_isNew_addErrors e added
  refine ⟨⟨new, isNew, reached⟩, ?_, mem_addErrors_iff e added, ?_, ?_, ?_⟩
  · rw [reached]
    exact isNew.nodup_append once
  · apply addErrors_of_subset
    intro error mem
    exact (mem_addErrors_iff e added error).mpr (Or.inr mem)
  · intro line line' message message' digits digits' same
    exact Diagnostic.format_inj digits digits' same
  · intro ds different digits unknown
    exact errors_addErrors_normalForm different digits unknown

def Expectations.oneError : Expectations :=
  { errors := ["[1] Error: a"], exitCode := 65, count := 1 }

/-- Other diagnostics, with messages that look like normal forms. -/
def Diagnostic.quoting : List Diagnostic := [
  ⟨"2".toList, "Error: b".toList⟩,
  ⟨"1".toList, "Error: a] [2] Error: b".toList⟩,
  ⟨"1".toList, "Error: [2] Error: b".toList⟩]

theorem Expectations.errors_ordered_set_quoting :
    Fixture.read {} "one.lox" "// Error: a" = .ok oneError ∧ oneError.errors.Nodup ∧
    (∃ new, IsNew oneError.errors ["[2] Error: b", "[1] Error: a", "[2] Error: b"] new ∧
      oneError.addErrors ["[2] Error: b", "[1] Error: a", "[2] Error: b"] =
        { oneError with errors := oneError.errors ++ new }) ∧
    Diagnostic.quoting.Nodup ∧
    (∀ d ∈ Diagnostic.quoting, ∀ c ∈ d.line, isDigit c = true) ∧
    (∀ d ∈ Diagnostic.quoting, d.normalForm ∉ oneError.errors) ∧
    (oneError.addErrors (Diagnostic.quoting.map Diagnostic.normalForm)).errors =
      ["[1] Error: a", "[2] Error: b", "[1] Error: a] [2] Error: b",
        "[1] Error: [2] Error: b"] := by
  have one : Fixture.read {} "one.lox" "// Error: a" = .ok oneError := rfl
  have once := Fixture.errors_nodup_of_read one
  have different : Diagnostic.quoting.Nodup := by decide
  have numbers : ∀ d ∈ Diagnostic.quoting, IsNumber d.line := by decide
  have digits : ∀ d ∈ Diagnostic.quoting, ∀ c ∈ d.line, isDigit c = true :=
    fun d mem => (numbers d mem).2
  have unknown : ∀ d ∈ Diagnostic.quoting, d.normalForm ∉ oneError.errors := by decide
  obtain ⟨brought, -, -, -, -, separate⟩ :=
    errors_ordered_set oneError once ["[2] Error: b", "[1] Error: a", "[2] Error: b"]
  exact ⟨one, once, brought, different, digits, unknown,
    separate Diagnostic.quoting different digits unknown⟩

end Conformance

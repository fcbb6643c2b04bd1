import Conformance.Process

/-! # Work

What changes a world and may stall, step by step. A sequence of steps gives an answer exactly if
each step does, in the world that the steps before it left.
-/

namespace Conformance

variable {ε α β World : Type}

theorem bind_eq_ok_iff {x : Except ε α} {f : α → Except ε β} {b : β} :
    x >>= f = .ok b ↔ ∃ a, x = .ok a ∧ f a = .ok b := by
  cases x with
  | error e => simp [Bind.bind, Except.bind]
  | ok a => simp [Bind.bind, Except.bind]

theorem map_eq_ok_iff {x : Except ε α} {f : α → β} {b : β} :
    x.map f = .ok b ↔ ∃ a, x = .ok a ∧ f a = b := by
  cases x with
  | error e => simp [Except.map]
  | ok a => simp [Except.map]

namespace Work

variable {f : α → Work World β} {x : α} {xs : List α} {ys : List β} {w w' : World}

theorem return_eq_ok_iff {work : Work World α} {g : α → β} {b : β} :
    (do return g (← work) : Work World β) w = .ok (b, w') ↔
      ∃ a, work w = .ok (a, w') ∧ b = g a := by
  change (work w >>= fun p => .ok (g p.1, p.2)) = _ ↔ _
  rw [bind_eq_ok_iff]
  constructor
  · rintro ⟨⟨a, v⟩, done, same⟩
    obtain ⟨rfl, rfl⟩ := Prod.mk.inj (Except.ok.inj same)
    exact ⟨a, done, rfl⟩
  · rintro ⟨a, done, rfl⟩
    exact ⟨(a, w'), done, rfl⟩

theorem mapM_nil_eq_ok_iff : ([] : List α).mapM f w = .ok (ys, w') ↔ ys = [] ∧ w' = w := by
  change Except.ok (([] : List β), w) = .ok (ys, w') ↔ _
  simp [eq_comm]

theorem mapM_cons_eq_ok_iff :
    (x :: xs).mapM f w = .ok (ys, w') ↔
      ∃ y v rest, f x w = .ok (y, v) ∧ xs.mapM f v = .ok (rest, w') ∧ ys = y :: rest := by
  have unfolded : (x :: xs).mapM f w = (f x w).bind fun first =>
      (xs.mapM f first.2).map fun others => (first.1 :: others.1, others.2) := by
    rw [List.mapM_cons]
    rfl
  rw [unfolded]
  constructor
  · intro answered
    obtain ⟨⟨y, v⟩, first, onward⟩ := bind_eq_ok_iff.mp answered
    obtain ⟨⟨rest, v'⟩, others, same⟩ := map_eq_ok_iff.mp onward
    obtain ⟨rfl, rfl⟩ := Prod.mk.inj same
    exact ⟨y, v, rest, first, others, rfl⟩
  · rintro ⟨y, v, rest, first, others, rfl⟩
    refine bind_eq_ok_iff.mpr ⟨(y, v), first, ?_⟩
    exact map_eq_ok_iff.mpr ⟨(rest, w'), others, rfl⟩

theorem length_of_mapM (answered : xs.mapM f w = .ok (ys, w')) : ys.length = xs.length := by
  induction xs generalizing ys w with
  | nil =>
    obtain ⟨rfl, -⟩ := mapM_nil_eq_ok_iff.mp answered
    rfl
  | cons x xs ih =>
    obtain ⟨y, v, rest, -, others, rfl⟩ := mapM_cons_eq_ok_iff.mp answered
    rw [List.length_cons, List.length_cons, ih others]

theorem exists_mapM (answers : ∀ x ∈ xs, ∀ v, ∃ y v', f x v = .ok (y, v')) (w : World) :
    ∃ ys w', xs.mapM f w = .ok (ys, w') := by
  induction xs generalizing w with
  | nil => exact ⟨[], w, rfl⟩
  | cons x xs ih =>
    obtain ⟨y, v, first⟩ := answers x List.mem_cons_self w
    obtain ⟨rest, w', others⟩ := ih (fun x' among => answers x' (List.mem_cons_of_mem x among)) v
    exact ⟨y :: rest, w', mapM_cons_eq_ok_iff.mpr ⟨y, v, rest, first, others, rfl⟩⟩

theorem mapM_preserves {P : World → Prop}
    (keeps : ∀ x ∈ xs, ∀ v y v', f x v = .ok (y, v') → P v → P v')
    (answered : xs.mapM f w = .ok (ys, w')) (start : P w) : P w' := by
  induction xs generalizing ys w with
  | nil =>
    obtain ⟨-, rfl⟩ := mapM_nil_eq_ok_iff.mp answered
    exact start
  | cons x xs ih =>
    obtain ⟨y, v, rest, first, others, -⟩ := mapM_cons_eq_ok_iff.mp answered
    have kept := keeps x List.mem_cons_self w y v first start
    exact ih (fun x' among => keeps x' (List.mem_cons_of_mem x among)) others kept

/-- Steps whose answers are the same in all worlds that they may leave. -/
theorem mapM_eq_map {P : World → Prop} {g : α → β}
    (answers : ∀ x ∈ xs, ∀ v, P v → ∃ v', f x v = .ok (g x, v') ∧ P v') (start : P w) :
    ∃ w', xs.mapM f w = .ok (xs.map g, w') ∧ P w' := by
  induction xs generalizing w with
  | nil => exact ⟨w, rfl, start⟩
  | cons x xs ih =>
    obtain ⟨v, first, kept⟩ := answers x List.mem_cons_self w start
    obtain ⟨w', others, last⟩ :=
      ih (fun x' among => answers x' (List.mem_cons_of_mem x among)) kept
    exact ⟨w', mapM_cons_eq_ok_iff.mpr ⟨g x, v, xs.map g, first, others, rfl⟩, last⟩

end Work

end Conformance

import Conformance.Text.Search
import Conformance.Text.Digit
import Mathlib.Data.List.Infix
import Mathlib.Data.List.TakeWhile
import Mathlib.Order.Bounds.Defs

/-! # What a search finds

The recognisers in terms of the text around them: a needle in front of a rest, a longest run and
the character that ends it, and the first place where a recogniser succeeds.
-/

namespace Conformance.Text

variable {α : Type}

theorem after?_isSome_iff {needle text : List Char} :
    (after? needle text).isSome = true ↔ needle <+: text := by
  rw [Option.isSome_iff_exists]
  constructor
  · rintro ⟨rest, h⟩
    exact ⟨rest, (after?_eq_some_iff.mp h).symm⟩
  · rintro ⟨rest, h⟩
    exact ⟨rest, after?_eq_some_iff.mpr h.symm⟩

theorem run?_eq_some_iff {p : Char → Bool} {text front rest : List Char} :
    run? p text = some (front, rest) ↔
      text = front ++ rest ∧ front ≠ [] ∧ (∀ c ∈ front, p c = true) ∧
        ∀ c ∈ rest.head?, p c = false := by
  constructor
  · intro h
    unfold run? at h
    split at h
    · cases h
    · next ne =>
      obtain ⟨rfl, rfl⟩ := Prod.mk.inj (Option.some.inj h)
      refine ⟨List.takeWhile_append_dropWhile.symm, ne, fun c hc => List.mem_takeWhile_imp hc, ?_⟩
      intro c hc
      have := List.head?_dropWhile_not p text
      rw [hc] at this
      simpa using this
  · rintro ⟨rfl, ne, all, stop⟩
    have taken : (front ++ rest).takeWhile p = front := by
      rw [List.takeWhile_append_of_pos all]
      cases rest with
      | nil => simp
      | cons c cs => simp [stop c rfl]
    have dropped : (front ++ rest).dropWhile p = rest := by
      rw [List.dropWhile_append_of_pos all]
      cases rest with
      | nil => rfl
      | cons c cs => simp [stop c rfl]
    unfold run?
    rw [taken, dropped]
    cases front with
    | nil => exact absurd rfl ne
    | cons c cs => rfl

theorem run?_append {p : Char → Bool} {front : List Char} {c : Char} (rest : List Char)
    (ne : front ≠ []) (all : ∀ x ∈ front, p x = true) (stop : p c = false) :
    run? p (front ++ c :: rest) = some (front, c :: rest) :=
  run?_eq_some_iff.mpr ⟨rfl, ne, all, fun x hx => by
    obtain rfl : c = x := by simpa using hx
    exact stop⟩

section

variable {stop : Char} {front : List Char}

theorem forall_ne_of_not_mem (absent : stop ∉ front) : ∀ c ∈ front, decide (c ≠ stop) = true := by
  intro c among
  rw [decide_eq_true_iff]
  rintro rfl
  exact absent among

theorem takeWhile_ne_append (absent : stop ∉ front) (rest : List Char) :
    (front ++ stop :: rest).takeWhile (· ≠ stop) = front := by
  rw [List.takeWhile_append_of_pos (forall_ne_of_not_mem absent)]
  simp

theorem dropWhile_ne_append (absent : stop ∉ front) (rest : List Char) :
    (front ++ stop :: rest).dropWhile (· ≠ stop) = stop :: rest := by
  rw [List.dropWhile_append_of_pos (forall_ne_of_not_mem absent)]
  simp

end

theorem leftmost_isSome_iff {p : List Char → Option α} {text : List Char} :
    (leftmost p text).isSome = true ↔ ∃ rest, rest <:+ text ∧ (p rest).isSome = true := by
  induction text with
  | nil => simp [leftmost]
  | cons c cs ih =>
    unfold leftmost
    split
    · next a found =>
      simp only [Option.isSome_some, true_iff]
      exact ⟨c :: cs, List.suffix_rfl, by simp [found]⟩
    · next missing =>
      rw [Option.isSome_map, ih]
      constructor
      · rintro ⟨rest, hs, hp⟩
        exact ⟨rest, hs.trans (List.suffix_cons c cs), hp⟩
      · rintro ⟨rest, hs, hp⟩
        rcases List.suffix_cons_iff.mp hs with rfl | hs
        · simp [missing] at hp
        · exact ⟨rest, hs, hp⟩

theorem leftmost_of_front {p : List Char → Option α} {text : List Char} {a : α}
    (h : p text = some a) : leftmost p text = some ([], a) := by
  cases text with
  | nil => simp [leftmost, h]
  | cons c cs => simp [leftmost, h]

/-- The place of what is found is the first at which the recogniser succeeds. -/
theorem leftmost_eq_some_iff {p : List Char → Option α} {text front : List Char} {a : α} :
    leftmost p text = some (front, a) ↔
      ∃ k ≤ text.length, front = text.take k ∧ p (text.drop k) = some a ∧
        ∀ j < k, p (text.drop j) = none := by
  induction text generalizing front with
  | nil => simp [leftmost, eq_comm, and_comm]
  | cons c cs ih =>
    unfold leftmost
    cases here : p (c :: cs) with
    | some b =>
      simp only [Option.some.injEq, Prod.mk.injEq]
      constructor
      · rintro ⟨rfl, rfl⟩
        exact ⟨0, Nat.zero_le _, rfl, here, fun j hj => absurd hj (Nat.not_lt_zero j)⟩
      · rintro ⟨k, -, rfl, found, before⟩
        have first : k = 0 := by
          by_contra later
          have missing := before 0 (Nat.pos_of_ne_zero later)
          rw [List.drop_zero, here] at missing
          cases missing
        subst first
        rw [List.drop_zero, here] at found
        exact ⟨rfl, Option.some.inj found⟩
    | none =>
      simp only [Option.map_eq_some_iff, Prod.mk.injEq, Prod.exists]
      constructor
      · rintro ⟨front, b, found, rfl, rfl⟩
        obtain ⟨k, within, rfl, at_k, before⟩ := ih.mp found
        refine ⟨k + 1, Nat.succ_le_succ within, rfl, at_k, fun j hj => ?_⟩
        cases j with
        | zero => exact here
        | succ j => exact before j (Nat.lt_of_succ_lt_succ hj)
      · rintro ⟨k, within, rfl, at_k, before⟩
        cases k with
        | zero =>
          rw [List.drop_zero, here] at at_k
          cases at_k
        | succ k =>
          refine ⟨cs.take k, a, ih.mpr ⟨k, ?_, rfl, at_k, fun j hj => ?_⟩, rfl, rfl⟩
          · exact Nat.le_of_succ_le_succ within
          · exact before (j + 1) (Nat.succ_lt_succ hj)

theorem leftmost_eq_none_iff {p : List Char → Option α} {text : List Char} :
    leftmost p text = none ↔ ∀ k, p (text.drop k) = none := by
  rw [← Option.not_isSome_iff_eq_none, leftmost_isSome_iff]
  constructor
  · intro nowhere k
    by_contra found
    exact nowhere ⟨text.drop k, List.drop_suffix k text, Option.isSome_iff_ne_none.mpr found⟩
  · rintro missing ⟨rest, ⟨front, rfl⟩, found⟩
    have here := missing front.length
    rw [List.drop_left] at here
    rw [here] at found
    cases found

/-- What a text holds from the first place where something starts. -/
def FirstFrom (starts : List Char → Prop) (text rest : List Char) : Prop :=
  ∃ k, IsLeast {j | starts (text.drop j)} k ∧ rest = text.drop k

theorem FirstFrom.starts {starts : List Char → Prop} {text rest : List Char}
    (h : FirstFrom starts text rest) : starts rest := by
  obtain ⟨k, first, rfl⟩ := h
  exact first.1

theorem FirstFrom.suffix {starts : List Char → Prop} {text rest : List Char}
    (h : FirstFrom starts text rest) : rest <:+ text := by
  obtain ⟨k, -, rfl⟩ := h
  exact List.drop_suffix k text

theorem exists_leftmost_iff {p : List Char → Option α} {starts : List Char → Prop}
    (tells : ∀ text, (p text).isSome = true ↔ starts text) {text : List Char} {a : α} :
    (∃ front, leftmost p text = some (front, a)) ↔
      ∃ rest, FirstFrom starts text rest ∧ p rest = some a := by
  constructor
  · rintro ⟨front, found⟩
    obtain ⟨k, -, -, at_k, before⟩ := leftmost_eq_some_iff.mp found
    refine ⟨text.drop k, ⟨k, ⟨(tells _).mp (by rw [at_k]; rfl), fun j started => ?_⟩, rfl⟩, at_k⟩
    by_contra earlier
    have missing := before j (Nat.lt_of_not_le earlier)
    have present := (tells _).mpr started
    rw [missing] at present
    cases present
  · rintro ⟨rest, ⟨k, ⟨-, least⟩, rfl⟩, at_k⟩
    -- past the end of the text there is nothing that is not at its end already
    have within : k ≤ text.length := by
      by_contra beyond
      have at_end : starts (text.drop text.length) := by
        rw [List.drop_of_length_le (Nat.le_of_not_le beyond)] at at_k
        rw [List.drop_length]
        exact (tells []).mp (by rw [at_k]; rfl)
      exact beyond (least at_end)
    refine ⟨text.take k, leftmost_eq_some_iff.mpr ⟨k, within, rfl, at_k, fun j hj => ?_⟩⟩
    by_contra found
    exact Nat.not_le_of_lt hj (least ((tells _).mp (Option.isSome_iff_ne_none.mpr found)))

theorem leftmost_eq_none_iff_starts {p : List Char → Option α} {starts : List Char → Prop}
    (tells : ∀ text, (p text).isSome = true ↔ starts text) {text : List Char} :
    leftmost p text = none ↔ ∀ k, ¬ starts (text.drop k) := by
  rw [leftmost_eq_none_iff]
  refine forall_congr' fun k => ?_
  rw [← tells, Option.not_isSome_iff_eq_none]

theorem occurs_iff {needle text : List Char} : occurs needle text = true ↔ needle <:+: text := by
  unfold occurs
  rw [leftmost_isSome_iff, List.infix_iff_prefix_suffix]
  simp only [after?_isSome_iff]
  constructor
  · rintro ⟨rest, hs, hp⟩
    exact ⟨rest, hp, hs⟩
  · rintro ⟨rest, hp, hs⟩
    exact ⟨rest, hs, hp⟩

theorem contains_iff {text needle : String} :
    contains text needle = true ↔ needle.toList <:+: text.toList :=
  occurs_iff

def IsNumber (text : List Char) : Prop := text ≠ [] ∧ ∀ c ∈ text, isDigit c = true

instance (text : List Char) : Decidable (IsNumber text) :=
  decidable_of_iff ((!text.isEmpty && text.all isDigit) = true) (by simp [IsNumber])

theorem isNumber_toString (n : Nat) : IsNumber (toString n).toList := by
  rw [Nat.toString_eq_repr, Nat.toList_repr]
  refine ⟨Nat.toDigits_ne_nil, fun c hc => ?_⟩
  exact isDigit_of_ascii (Nat.isDigit_of_mem_toDigits (by decide) (by decide) hc)

theorem IsNumber.not_mem {text : List Char} (h : IsNumber text) {c : Char}
    (hc : isDigit c = false) : c ∉ text := by
  intro mem
  rw [h.2 c mem] at hc
  cases hc

end Conformance.Text

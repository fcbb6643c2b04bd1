import Conformance.Proofs.Text.Search

/-! # Splitting and substitution

A needle cuts a text into the parts between its occurrences. A needle whose first character does not
come again cannot overlap itself, so there is one way to cut, and a substitution in one pass joins
the parts with the replacement: it never looks into the replacement, nor across a seam.
-/

namespace Conformance.Text

/-! ## Joining -/

section Joining

variable {α : Type} {sep other : List α} {parts : List (List α)}

theorem prefix_intercalate_cons (part : List α) : part <+: sep.intercalate (part :: parts) := by
  cases parts with
  | nil => simp
  | cons next parts => simp [List.append_assoc]

theorem length_intercalate_cons (part : List α) : (sep.intercalate (part :: parts)).length =
    parts.length * sep.length + (part :: parts).flatten.length := by
  induction parts generalizing part with
  | nil => simp
  | cons next parts ih =>
    have joined := ih next
    simp only [List.intercalate_cons_cons, List.flatten_cons, List.length_append, List.length_cons,
      Nat.succ_mul] at joined ⊢
    omega

theorem eq_of_intercalate_eq (seam : 1 < parts.length)
    (same : sep.intercalate parts = other.intercalate parts) : sep = other := by
  match parts, seam with
  | first :: next :: rest, _ =>
    have sizes := congrArg List.length same
    rw [length_intercalate_cons, length_intercalate_cons, Nat.add_right_cancel_iff] at sizes
    have width : sep.length = other.length :=
      Nat.eq_of_mul_eq_mul_left (Nat.succ_pos rest.length) sizes
    rw [List.intercalate_cons_cons, List.intercalate_cons_cons, List.append_assoc,
      List.append_assoc, List.append_cancel_left_eq] at same
    exact (List.append_inj same width).1

end Joining

/-! ## Cutting -/

/-- The parts of a text between the occurrences of a needle: joined with the needle they are the
text, and none of them holds it. -/
structure IsSplit (needle text : List Char) (parts : List (List Char)) : Prop where
  ne_nil : parts ≠ []
  joined : needle.intercalate parts = text
  apart : ∀ part ∈ parts, ¬ needle <:+: part

variable {needle text part rest : List Char} {parts others : List (List Char)}

theorem isSplit_singleton_iff : IsSplit needle text [part] ↔ part = text ∧ ¬ needle <:+: text := by
  constructor
  · rintro ⟨-, joined, apart⟩
    obtain rfl : part = text := by simpa using joined
    exact ⟨rfl, apart part List.mem_cons_self⟩
  · rintro ⟨rfl, whole⟩
    exact ⟨List.cons_ne_nil _ _, List.intercalate_singleton, by simpa using whole⟩

theorem isSplit_cons_iff (more : parts ≠ []) : IsSplit needle text (part :: parts) ↔
    ∃ rest, text = part ++ (needle ++ rest) ∧ ¬ needle <:+: part ∧ IsSplit needle rest parts := by
  constructor
  · rintro ⟨-, rfl, apart⟩
    obtain ⟨clear, apart⟩ := List.forall_mem_cons.mp apart
    exact ⟨needle.intercalate parts,
      by rw [List.intercalate_cons_of_ne_nil more, List.append_assoc], clear, more, rfl, apart⟩
  · rintro ⟨rest, rfl, clear, -, rfl, apart⟩
    exact ⟨List.cons_ne_nil _ _,
      by rw [List.intercalate_cons_of_ne_nil more, List.append_assoc],
      List.forall_mem_cons.mpr ⟨clear, apart⟩⟩

theorem IsSplit.one_lt_length (cut : IsSplit needle text parts) (held : needle <:+: text) :
    1 < parts.length := by
  match parts, cut with
  | [], cut => exact absurd rfl cut.ne_nil
  | [part], cut => exact absurd held (isSplit_singleton_iff.mp cut).2
  | _ :: _ :: _, _ => simp

theorem exists_isSplit (needle text : List Char) (ne : needle ≠ []) :
    ∃ parts, IsSplit needle text parts := by
  induction size : text.length using Nat.strong_induction_on generalizing text with
  | _ size ih =>
  subst size
  cases text with
  | nil => exact ⟨[[]], isSplit_singleton_iff.mpr ⟨rfl, by simpa using ne⟩⟩
  | cons c cs =>
    by_cases front : needle <+: c :: cs
    · obtain ⟨rest, joined⟩ := front
      have shorter : rest.length < (c :: cs).length := by
        rw [← joined, List.length_append]
        exact Nat.lt_add_of_pos_left (List.length_pos_iff.mpr ne)
      obtain ⟨parts, cut⟩ := ih _ shorter rest rfl
      exact ⟨[] :: parts, (isSplit_cons_iff cut.ne_nil).mpr
        ⟨rest, joined.symm, by simpa using ne, cut⟩⟩
    · obtain ⟨parts, cut⟩ := ih _ (Nat.lt_succ_self cs.length) cs rfl
      obtain ⟨first, parts, rfl⟩ := List.exists_cons_of_ne_nil cut.ne_nil
      obtain ⟨clear, apart⟩ := List.forall_mem_cons.mp cut.apart
      refine ⟨(c :: first) :: parts, List.cons_ne_nil _ _, ?_, List.forall_mem_cons.mpr ⟨?_, apart⟩⟩
      · rw [List.intercalate_cons_cons_left, cut.joined]
      · rw [List.infix_cons_iff]
        rintro (start | inside)
        · rw [← cut.joined, ← List.intercalate_cons_cons_left] at front
          exact front (start.trans (prefix_intercalate_cons (c :: first)))
        · exact clear inside

/-! ## Needles that cannot overlap themselves -/

section Unbordered

variable {c : Char} {tail : List Char}

/-- No occurrence starts in a part and ends past it. -/
theorem not_prefix_append (fresh : c ∉ tail) (ne : part ≠ []) (clear : ¬ c :: tail <:+: part) :
    ¬ c :: tail <+: part ++ (c :: tail ++ rest) := by
  intro start
  rcases Nat.le_total (c :: tail).length part.length with short | long
  · exact clear (List.prefix_of_prefix_length_le start (List.prefix_append part _) short).isInfix
  · -- the needle starts with the part, and what is left of it would start like the needle
    obtain ⟨left, needle⟩ := List.prefix_of_prefix_length_le (List.prefix_append part _) start long
    rw [← needle, List.prefix_append_right_inj] at start
    obtain ⟨d, part, rfl⟩ := List.exists_cons_of_ne_nil ne
    obtain ⟨rfl, rfl⟩ := List.cons.inj needle
    cases left with
    | nil => exact clear (by simp)
    | cons e left =>
      obtain ⟨again, same⟩ := start
      obtain rfl : e = d := (List.cons.inj same).1
      exact fresh (by simp)

theorem eq_nil_of_needle_eq (fresh : c ∉ tail) {other : List Char} (clear : ¬ c :: tail <:+: part)
    (same : c :: tail ++ rest = part ++ (c :: tail ++ other)) : part = [] := by
  by_contra ne
  exact not_prefix_append fresh ne clear (same ▸ List.prefix_append (c :: tail) rest)

theorem append_needle_inj (fresh : c ∉ tail) {part' rest' : List Char}
    (clear : ¬ c :: tail <:+: part) (clear' : ¬ c :: tail <:+: part')
    (same : part ++ (c :: tail ++ rest) = part' ++ (c :: tail ++ rest')) :
    part = part' ∧ rest = rest' := by
  have aligned : part = part' := by
    rcases List.append_eq_append_iff.mp same with ⟨left, rfl, onward⟩ | ⟨left, rfl, onward⟩
    · have inside : left <:+: part ++ left := (List.suffix_append part left).isInfix
      rw [eq_nil_of_needle_eq fresh (fun held => clear' (held.trans inside)) onward,
        List.append_nil]
    · have inside : left <:+: part' ++ left := (List.suffix_append part' left).isInfix
      rw [eq_nil_of_needle_eq fresh (fun held => clear (held.trans inside)) onward,
        List.append_nil]
  subst aligned
  exact ⟨rfl, List.append_cancel_left (List.append_cancel_left same)⟩

theorem IsSplit.unique (fresh : c ∉ tail) (cut : IsSplit (c :: tail) text parts)
    (cut' : IsSplit (c :: tail) text others) : parts = others := by
  induction parts generalizing text others with
  | nil => exact absurd rfl cut.ne_nil
  | cons part parts ih =>
    obtain ⟨other, others, rfl⟩ := List.exists_cons_of_ne_nil cut'.ne_nil
    rcases eq_or_ne parts [] with rfl | more <;> rcases eq_or_ne others [] with rfl | more'
    · rw [(isSplit_singleton_iff.mp cut).1, (isSplit_singleton_iff.mp cut').1]
    · obtain ⟨rest, rfl, -⟩ := (isSplit_cons_iff more').mp cut'
      exact absurd ⟨other, rest, by simp⟩ (isSplit_singleton_iff.mp cut).2
    · obtain ⟨rest, rfl, -⟩ := (isSplit_cons_iff more).mp cut
      exact absurd ⟨part, rest, by simp⟩ (isSplit_singleton_iff.mp cut').2
    · obtain ⟨rest, rfl, clear, cut⟩ := (isSplit_cons_iff more).mp cut
      obtain ⟨rest', same, clear', cut'⟩ := (isSplit_cons_iff more').mp cut'
      obtain ⟨rfl, rfl⟩ := append_needle_inj fresh clear clear' same
      rw [ih cut cut']

end Unbordered

/-! ## Substitution -/

section Substitution

variable {replacement : List Char}

theorem length_le_of_after? {d : Char} {ds : List Char} (ne : needle ≠ [])
    (found : after? needle (d :: ds) = some rest) : rest.length ≤ ds.length := by
  have sizes := congrArg List.length (after?_eq_some_iff.mp found)
  have := List.length_pos_iff.mpr ne
  simp only [List.length_cons, List.length_append] at sizes
  omega

theorem substituteFrom_congr (ne : needle ≠ []) {m n : Nat} (inM : text.length ≤ m)
    (inN : text.length ≤ n) :
    substituteFrom needle replacement m text = substituteFrom needle replacement n text := by
  -- both run out of text before they run out of fuel
  induction m generalizing n text with
  | zero =>
    obtain rfl := List.length_eq_zero_iff.mp (Nat.le_zero.mp inM)
    cases n <;> rfl
  | succ m ih =>
    cases text with
    | nil => cases n <;> rfl
    | cons d ds =>
      cases n with
      | zero => cases inN
      | succ n =>
        have inM := Nat.le_of_succ_le_succ inM
        have inN := Nat.le_of_succ_le_succ inN
        unfold substituteFrom
        split
        · next rest found =>
          have shorter := length_le_of_after? ne found
          rw [ih (shorter.trans inM) (shorter.trans inN)]
        · rw [ih inM inN]

theorem substitute_append_needle (ne : needle ≠ []) :
    substitute needle replacement (needle ++ rest) =
      replacement ++ substitute needle replacement rest := by
  obtain ⟨d, ds, rfl⟩ := List.exists_cons_of_ne_nil ne
  simp only [substitute, List.cons_append, List.length_cons, substituteFrom]
  rw [← List.cons_append, after?_append]
  exact congrArg (replacement ++ ·) (substituteFrom_congr ne (by simp) le_rfl)

theorem substitute_append_of_apart
    (apart : ∀ left, left ≠ [] → left <:+ part → ¬ needle <+: left ++ rest) :
    substitute needle replacement (part ++ rest) = part ++ substitute needle replacement rest := by
  induction part with
  | nil => rfl
  | cons d part ih =>
    have missing : after? needle (d :: part ++ rest) = none := by
      rw [← Option.not_isSome_iff_eq_none, after?_isSome_iff]
      exact apart (d :: part) (List.cons_ne_nil d part) List.suffix_rfl
    simp only [substitute, List.cons_append, List.length_cons, substituteFrom] at missing ih ⊢
    rw [missing, ih fun left ne inside => apart left ne (inside.trans (List.suffix_cons d part))]

/-- A substitution joins the parts of a text with the replacement. -/
theorem substitute_eq_intercalate {c : Char} {tail : List Char} (fresh : c ∉ tail)
    (cut : IsSplit (c :: tail) text parts) :
    substitute (c :: tail) replacement text = replacement.intercalate parts := by
  induction parts generalizing text with
  | nil => exact absurd rfl cut.ne_nil
  | cons part parts ih =>
    rcases eq_or_ne parts [] with rfl | more
    · obtain ⟨rfl, whole⟩ := isSplit_singleton_iff.mp cut
      have kept : substitute (c :: tail) replacement (part ++ []) = part ++ [] :=
        substitute_append_of_apart fun left _ inside held =>
          whole ((List.append_nil left ▸ held).isInfix.trans inside.isInfix)
      rw [List.append_nil] at kept
      rw [kept, List.intercalate_singleton]
    · obtain ⟨rest, rfl, clear, cut⟩ := (isSplit_cons_iff more).mp cut
      rw [substitute_append_of_apart, substitute_append_needle (List.cons_ne_nil c tail), ih cut,
        List.intercalate_cons_of_ne_nil more, List.append_assoc]
      intro left ne inside
      exact not_prefix_append fresh ne fun held => clear (held.trans inside.isInfix)

end Substitution

end Conformance.Text

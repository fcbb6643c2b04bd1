import Conformance.Marker
import Conformance.Verdict
import Conformance.Proofs.Diagnostic
import Conformance.Proofs.Text.Lines

/-! # Where a line holds its diagnostic

A line is read at the last place where `line N] Error` and more stands behind some bracket. Without
such a place, it is read at the first `[N] Error` and more.
-/

namespace Conformance

open Conformance.Text

namespace Diagnostic

/-- From position `p` to its end the line is `line N] Error` and more, and a bracket comes before. -/
structure LocatedFrom (line : List Char) (p : Nat) (d : Diagnostic) : Prop where
  report : d.IsReport
  bracket : '[' ∈ line.take p
  rest : line.drop p = d.located

/-- From position `p` to its end the line is `[N] Error` and more. -/
structure BracketedFrom (line : List Char) (p : Nat) (d : Diagnostic) : Prop where
  report : d.IsReport
  rest : line.drop p = '[' :: d.body

/-- What a line is read as. -/
inductive ReadsAs (line : List Char) : Option Diagnostic → Prop where
  | located {p : Nat} {d : Diagnostic}
      (last : IsGreatest {q | ∃ d', LocatedFrom line q d'} p) (here : LocatedFrom line p d) :
    ReadsAs line (some d)
  | bracketed {p : Nat} {d : Diagnostic} (unlocated : ∀ q d', ¬ LocatedFrom line q d')
      (first : IsLeast {q | ∃ d', BracketedFrom line q d'} p) (here : BracketedFrom line p d) :
    ReadsAs line (some d)
  | nothing (unlocated : ∀ q d', ¬ LocatedFrom line q d')
      (unbracketed : ∀ q d', ¬ BracketedFrom line q d') :
    ReadsAs line none

/-! ## The last place -/

theorem lastLocated_eq_none_iff_drop {text : List Char} :
    lastLocated text = none ↔ ∀ q, locatedAt (text.drop q) = none := by
  rw [lastLocated_eq_none_iff]
  constructor
  · intro unlocated q
    rw [Option.eq_none_iff_forall_ne_some]
    intro d found
    obtain ⟨report, eq⟩ := locatedAt_eq_some_iff.mp found
    exact unlocated d report (eq ▸ List.drop_suffix q text)
  · rintro missing d report ⟨front, rfl⟩
    have here := missing front.length
    rw [List.drop_left, locatedAt_eq_some_iff.mpr ⟨report, rfl⟩] at here
    cases here

theorem lastLocated_eq_some_iff {text : List Char} {d : Diagnostic} : lastLocated text = some d ↔
    ∃ p, locatedAt (text.drop p) = some d ∧ ∀ q, p < q → locatedAt (text.drop q) = none := by
  induction text with
  | nil =>
    have nothing : locatedAt [] = none := rfl
    simp [lastLocated, nothing]
  | cons c cs ih =>
    rw [lastLocated, Option.or_eq_some_iff, ih, lastLocated_eq_none_iff_drop]
    constructor
    · rintro (⟨p, at_p, after⟩ | ⟨none_later, here⟩)
      · refine ⟨p + 1, at_p, fun q hq => ?_⟩
        obtain ⟨q, rfl⟩ := Nat.exists_eq_add_of_lt (Nat.zero_lt_of_lt hq)
        rw [Nat.zero_add] at hq ⊢
        exact after q (Nat.lt_of_succ_lt_succ hq)
      · refine ⟨0, here, fun q hq => ?_⟩
        obtain ⟨q, rfl⟩ := Nat.exists_eq_add_of_lt hq
        rw [Nat.zero_add]
        exact none_later q
    · rintro ⟨p, at_p, after⟩
      cases p with
      | zero => exact .inr ⟨fun q => after (q + 1) (Nat.succ_pos q), at_p⟩
      | succ p => exact .inl ⟨p, at_p, fun q hq => after (q + 1) (Nat.succ_lt_succ hq)⟩

def behindBracket (line : List Char) : List Char := (line.dropWhile (· ≠ '[')).tail

theorem behindBracket_append {front : List Char} (h : '[' ∉ front) (rest : List Char) :
    behindBracket (front ++ '[' :: rest) = rest := by
  rw [behindBracket, Text.dropWhile_ne_append h, List.tail_cons]

theorem behindBracket_eq_nil {line : List Char} (h : '[' ∉ line) : behindBracket line = [] := by
  rw [behindBracket, List.dropWhile_eq_nil_iff.mpr (Text.forall_ne_of_not_mem h),
    List.tail_nil]

/-- Places behind a bracket are places of the text behind the first bracket. -/
theorem locatedFrom_append {front rest : List Char} (h : '[' ∉ front) {p : Nat} {d : Diagnostic} :
    LocatedFrom (front ++ '[' :: rest) p d ↔
      ∃ q, p = front.length + 1 + q ∧ locatedAt (rest.drop q) = some d := by
  have moved : ∀ q, (front ++ '[' :: rest).drop (front.length + 1 + q) = rest.drop q := by
    intro q
    rw [Nat.add_assoc, List.drop_length_add_append, Nat.add_comm 1 q, List.drop_succ_cons]
  constructor
  · rintro ⟨report, bracket, eq⟩
    have past : front.length < p := by
      by_contra short
      rw [List.take_append_of_le_length (Nat.le_of_not_lt short)] at bracket
      exact h (List.mem_of_mem_take bracket)
    obtain ⟨q, rfl⟩ := Nat.exists_eq_add_of_lt past
    refine ⟨q, by omega, locatedAt_eq_some_iff.mpr ⟨report, ?_⟩⟩
    rw [← moved q, ← eq]
    congr 1
    omega
  · rintro ⟨q, rfl, found⟩
    obtain ⟨report, eq⟩ := locatedAt_eq_some_iff.mp found
    refine ⟨report, ?_, (moved q).trans eq⟩
    rw [Nat.add_assoc, List.take_length_add_append, Nat.add_comm 1 q, List.take_succ_cons]
    simp

theorem not_locatedFrom {line : List Char} (h : '[' ∉ line) (p : Nat) (d : Diagnostic) :
    ¬ LocatedFrom line p d :=
  fun located => h (List.mem_of_mem_take located.bracket)

theorem lastLocated_behindBracket_eq_none_iff {line : List Char} :
    lastLocated (behindBracket line) = none ↔ ∀ q d, ¬ LocatedFrom line q d := by
  by_cases bracket : '[' ∈ line
  · obtain ⟨front, rest, rfl, clear⟩ := List.eq_append_cons_of_mem bracket
    rw [behindBracket_append clear, lastLocated_eq_none_iff_drop]
    constructor
    · intro missing p d located
      obtain ⟨q, rfl, found⟩ := (locatedFrom_append clear).mp located
      rw [missing q] at found
      cases found
    · intro unlocated q
      rw [Option.eq_none_iff_forall_ne_some]
      intro d found
      exact unlocated _ d ((locatedFrom_append clear).mpr ⟨q, rfl, found⟩)
  · rw [behindBracket_eq_nil bracket]
    exact iff_of_true rfl (not_locatedFrom bracket)

theorem lastLocated_behindBracket_eq_some_iff {line : List Char} {d : Diagnostic} :
    lastLocated (behindBracket line) = some d ↔
      ∃ p, IsGreatest {q | ∃ d', LocatedFrom line q d'} p ∧ LocatedFrom line p d := by
  by_cases bracket : '[' ∈ line
  · obtain ⟨front, rest, rfl, clear⟩ := List.eq_append_cons_of_mem bracket
    rw [behindBracket_append clear, lastLocated_eq_some_iff]
    constructor
    · rintro ⟨p, at_p, after⟩
      have here := (locatedFrom_append clear).mpr ⟨p, rfl, at_p⟩
      refine ⟨_, ⟨⟨d, here⟩, ?_⟩, here⟩
      rintro other ⟨d', located⟩
      obtain ⟨q, rfl, found⟩ := (locatedFrom_append clear).mp located
      by_contra later
      rw [after q (by omega)] at found
      cases found
    · rintro ⟨place, ⟨-, greatest⟩, located⟩
      obtain ⟨p, rfl, at_p⟩ := (locatedFrom_append clear).mp located
      refine ⟨p, at_p, fun q later => ?_⟩
      rw [Option.eq_none_iff_forall_ne_some]
      intro d' found
      have bounded := greatest ⟨d', (locatedFrom_append clear).mpr ⟨q, rfl, found⟩⟩
      omega
  · rw [behindBracket_eq_nil bracket]
    refine iff_of_false nofun ?_
    rintro ⟨p, -, located⟩
    exact not_locatedFrom bracket p d located

/-! ## The first bracketed number -/

def bracketedAt : List Char → Option Diagnostic
  | '[' :: text => numberAt text
  | _ => none

theorem bracketedAt_eq_some_iff {text : List Char} {d : Diagnostic} :
    bracketedAt text = some d ↔ d.IsReport ∧ text = '[' :: d.body := by
  unfold bracketedAt
  split
  · next rest => simp [numberAt_eq_some_iff]
  · next other =>
    refine iff_of_false nofun ?_
    rintro ⟨-, eq⟩
    exact other d.body eq

theorem bracketedAt_isSome_iff (text : List Char) :
    (bracketedAt text).isSome = true ↔ ∃ d : Diagnostic, d.IsReport ∧ text = '[' :: d.body := by
  simp only [Option.isSome_iff_exists, bracketedAt_eq_some_iff]

theorem exists_bracketedFrom_iff {line : List Char} {p : Nat} :
    (∃ d, BracketedFrom line p d) ↔ ∃ d : Diagnostic, d.IsReport ∧ line.drop p = '[' :: d.body :=
  exists_congr fun _ => ⟨fun h => ⟨h.report, h.rest⟩, fun h => ⟨h.1, h.2⟩⟩

theorem leftmost_bracketedAt_eq_some_iff {line : List Char} {d : Diagnostic} :
    (∃ front, leftmost bracketedAt line = some (front, d)) ↔
      ∃ p, IsLeast {q | ∃ d', BracketedFrom line q d'} p ∧ BracketedFrom line p d := by
  rw [exists_leftmost_iff bracketedAt_isSome_iff]
  simp only [exists_bracketedFrom_iff]
  constructor
  · rintro ⟨rest, ⟨p, least, rfl⟩, found⟩
    obtain ⟨report, eq⟩ := bracketedAt_eq_some_iff.mp found
    exact ⟨p, least, report, eq⟩
  · rintro ⟨p, least, report, eq⟩
    exact ⟨_, ⟨p, least, rfl⟩, bracketedAt_eq_some_iff.mpr ⟨report, eq⟩⟩

theorem leftmost_bracketedAt_eq_none_iff {line : List Char} :
    leftmost bracketedAt line = none ↔ ∀ q d, ¬ BracketedFrom line q d := by
  rw [leftmost_eq_none_iff_starts bracketedAt_isSome_iff]
  simp only [← exists_bracketedFrom_iff, not_exists]

/-! ## The two searches together -/

/-- Behind the first bracket the last place counts. Only where there is none does the search for a
bracket go on, and it then meets bracketed numbers alone. -/
theorem recognise_eq (line : List Char) :
    recognise line =
      (lastLocated (behindBracket line)).or ((leftmost bracketedAt line).map Prod.snd) := by
  induction line with
  | nil => rfl
  | cons c cs ih =>
    by_cases bracket : c = '['
    · subst bracket
      have behind : behindBracket ('[' :: cs) = cs := by simp [behindBracket]
      rw [behind]
      cases last : lastLocated cs with
      | some d => simp [recognise, leftmost, bracketAt, last]
      | none =>
        have later : lastLocated (behindBracket cs) = none :=
          lastLocated_of_suffix last ((List.tail_suffix _).trans (List.dropWhile_suffix _))
        rw [later, Option.none_or] at ih
        cases number : numberAt cs with
        | some d => simp [recognise, leftmost, bracketAt, bracketedAt, last, number]
        | none =>
          simpa [recognise, leftmost, bracketAt, bracketedAt, last, number, Option.map_map,
            Function.comp_def] using ih
    · have behind : behindBracket (c :: cs) = behindBracket cs := by
        simp [behindBracket, bracket]
      have skipped : bracketAt (c :: cs) = none ∧ bracketedAt (c :: cs) = none := by
        constructor <;> simp [bracketAt, bracketedAt, bracket]
      rw [behind, recognise, leftmost, skipped.1, leftmost, skipped.2]
      simpa [recognise, Option.map_map, Function.comp_def] using ih

theorem recognise_eq_iff_readsAs (line : List Char) (found : Option Diagnostic) :
    recognise line = found ↔ ReadsAs line found := by
  rw [recognise_eq]
  constructor
  · rintro rfl
    cases last : lastLocated (behindBracket line) with
    | some d =>
      obtain ⟨p, greatest, here⟩ := lastLocated_behindBracket_eq_some_iff.mp last
      exact .located greatest here
    | none =>
      have unlocated := lastLocated_behindBracket_eq_none_iff.mp last
      cases first : leftmost bracketedAt line with
      | some found =>
        obtain ⟨p, least, here⟩ := leftmost_bracketedAt_eq_some_iff.mp ⟨found.1, first⟩
        exact .bracketed unlocated least here
      | none => exact .nothing unlocated (leftmost_bracketedAt_eq_none_iff.mp first)
  · intro reads
    cases reads with
    | located last here =>
      rw [lastLocated_behindBracket_eq_some_iff.mpr ⟨_, last, here⟩, Option.some_or]
    | bracketed unlocated first here =>
      obtain ⟨front, found⟩ := leftmost_bracketedAt_eq_some_iff.mpr ⟨_, first, here⟩
      rw [lastLocated_behindBracket_eq_none_iff.mpr unlocated, Option.none_or, found]
      rfl
    | nothing unlocated unbracketed =>
      rw [lastLocated_behindBracket_eq_none_iff.mpr unlocated, Option.none_or,
        leftmost_bracketedAt_eq_none_iff.mpr unbracketed]
      rfl

/-! ## Normal forms -/

/-- A diagnostic is compared as itself exactly if its message holds no further place. -/
theorem reported_eq_normalForm_iff {d : Diagnostic} (report : d.IsReport) {text : List Char}
    (form : text = d.printed ∨ text = '[' :: d.body) :
    Verdict.reported text = some d.normalForm ↔
      ∀ digits c, IsNumber digits → ¬ place digits c <:+: d.message := by
  rw [← lastLocated_eq_none_iff_place]
  constructor
  · intro reported
    obtain ⟨found, recognised, same⟩ := Option.map_eq_some_iff.mp reported
    obtain ⟨found_report, -, innermost⟩ := recognise_eq_some recognised
    obtain rfl := normalForm_injective found_report.line.2 report.line.2 same
    exact innermost
  · intro innermost
    have recognised : recognise text = some d := by
      rcases form with rfl | rfl
      · exact recognise_printed report innermost
      · rw [← toList_normalForm]
        exact recognise_normalForm report innermost
    rw [Verdict.reported, recognised, Option.map_some]

end Diagnostic

/-! ## The parts of the marker -/

namespace Marker

def partTexts (marker : Marker) (text : String) : Option (List (Option String)) :=
  (marker.spans text).map fun spans => spans.tail.map (Option.map Span.text)

theorem leftmost_map {α β : Type} (p : List Char → Option α) (f : List Char → α → β)
    (text : List Char) :
    leftmost (fun rest => (p rest).map (f rest)) text =
      (leftmost p text).map fun found => (found.1, f (text.drop found.1.length) found.2) := by
  induction text with
  | nil => cases h : p [] <;> simp [leftmost, h]
  | cons c cs ih =>
    cases h : p (c :: cs) with
    | some a => simp [leftmost, h]
    | none => simp [leftmost, h, ih, Option.map_map, Function.comp_def]

theorem partBeforeEnd_append (front part rest : List Char) :
    partBeforeEnd (front ++ (part ++ rest)) part.length rest.length = (front.length, part) := by
  have start : (front ++ (part ++ rest)).length - rest.length - part.length = front.length := by
    simp only [List.length_append]
    omega
  rw [partBeforeEnd, start, List.drop_left, List.take_left]

theorem numberPart_of_suffix {text : List Char} {d : Diagnostic} (h : d.body <:+ text) :
    (numberPart text d.line d.message).2 = d.line := by
  obtain ⟨front, rfl⟩ := h
  have split := partBeforeEnd_append front d.line ("] ".toList ++ d.message)
  have count : ("] ".toList ++ d.message).length = d.message.length + 2 := by
    rw [List.length_append]
    exact Nat.add_comm _ _
  rw [count] at split
  exact congrArg Prod.snd split

theorem tailPart_of_suffix {text message : List Char} (h : message <:+ text) :
    (tailPart text message).2 = message := by
  obtain ⟨front, rfl⟩ := h
  have split := partBeforeEnd_append front message []
  rw [List.append_nil] at split
  exact congrArg Prod.snd split

theorem partTexts_diagnostic {line : List Char} (h : '\n' ∉ line) :
    partTexts .diagnostic (String.ofList line) =
      (Diagnostic.recognise line).map fun d =>
        [some (String.ofList d.line), some (String.ofList d.message)] := by
  have whole : pieces line = [line] := by rw [pieces_eq_splitOn, List.splitOn_eq_singleton h]
  have parts : partsAt .diagnostic = fun rest => (Diagnostic.bracketAt rest).map fun d =>
      [some (0, rest), some (numberPart rest d.line d.message), some (tailPart rest d.message)] :=
    rfl
  rw [partTexts, spans, String.toList_ofList, whole, spansInLines, spansInLines, Option.or_none,
    spansInLine, parts, leftmost_map, Diagnostic.recognise]
  cases found : leftmost Diagnostic.bracketAt line with
  | none => rfl
  | some place =>
    obtain ⟨rest, rfl, at_⟩ := leftmost_append found
    have ends := (Diagnostic.bracketAt_eq_some at_).2.1
    have message_ends := (Diagnostic.message_suffix_body _).trans ends
    simp [numberPart_of_suffix ends, tailPart_of_suffix message_ends]

end Marker

namespace Diagnostic

/-- A line is read at the last place behind a bracket, else at the first bracketed number, else not
at all; the parts of the marker say the same. So a diagnostic that is printed on a line of its own,
or is in normal form, is compared as itself exactly if its message holds no place. -/
theorem recognise_exact :
    (∀ line found, recognise line = found ↔ ReadsAs line found) ∧
      (∀ line, '\n' ∉ line → Marker.partTexts .diagnostic (String.ofList line) =
        (recognise line).map fun d =>
          [some (String.ofList d.line), some (String.ofList d.message)]) ∧
      ∀ d : Diagnostic, d.IsReport → ∀ text, text = d.printed ∨ text = '[' :: d.body →
        (Verdict.reported text = some d.normalForm ↔
          ∀ digits c, IsNumber digits → ¬ place digits c <:+: d.message) := by
  refine ⟨recognise_eq_iff_readsAs, ?_, ?_⟩
  · intro line no_newline
    exact Marker.partTexts_diagnostic no_newline
  · intro d report text form
    exact reported_eq_normalForm_iff report form

/-- A message that quotes another diagnostic hides its own. -/
theorem recognise_exact_quoted :
    Marker.partTexts .diagnostic "[1] Error: see [line 2] Error: x" =
        some [some "2", some "Error: x"] ∧
      IsReport ⟨"1".toList, "Error: see [line 2] Error: x".toList⟩ ∧
      Verdict.reported "[1] Error: see [line 2] Error: x".toList ≠
        some (normalForm ⟨"1".toList, "Error: see [line 2] Error: x".toList⟩) := by
  obtain ⟨-, parts, compared⟩ := recognise_exact
  have report : IsReport ⟨"1".toList, "Error: see [line 2] Error: x".toList⟩ :=
    ⟨by decide, ':', " see [line 2] Error: x".toList, rfl⟩
  refine ⟨parts "[1] Error: see [line 2] Error: x".toList (by decide), report, ?_⟩
  intro reported
  have unplaced := (compared _ report _ (.inr rfl)).mp reported
  exact unplaced "2".toList ':' (by decide) ⟨"Error: see [".toList, " x".toList, rfl⟩

end Diagnostic

end Conformance

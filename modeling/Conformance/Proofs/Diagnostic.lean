import Conformance.Diagnostic
import Conformance.Proofs.Text.Search

/-! # What a line of an error stream reports

A diagnostic is a number and a message that goes on after `Error`, and it ends its line. Of several
places where one could start after `line`, the last counts: the message of a diagnostic that is
recognised holds no further place. A stack frame is a bracketed number anywhere in the line.
-/

namespace Conformance.Diagnostic

open Conformance.Text

structure IsReport (d : Diagnostic) : Prop where
  line : IsNumber d.line
  message : ∃ c rest, d.message = "Error".toList ++ c :: rest

def body (d : Diagnostic) : List Char := d.line ++ ("] ".toList ++ d.message)

/-- The part of a diagnostic that tells its place. -/
def located (d : Diagnostic) : List Char := "line ".toList ++ d.body

theorem located_def (d : Diagnostic) : d.located = "line ".toList ++ d.body := rfl

theorem run?_body {d : Diagnostic} (number : IsNumber d.line) :
    run? isDigit d.body = some (d.line, "] ".toList ++ d.message) :=
  run?_append (' ' :: d.message) number.1 number.2 (by decide)

theorem numberAt_eq_some_iff {text : List Char} {d : Diagnostic} :
    numberAt text = some d ↔ d.IsReport ∧ text = d.body := by
  constructor
  · intro h
    simp only [numberAt, Option.bind_eq_bind, Option.bind_eq_some_iff, Prod.exists] at h
    obtain ⟨digits, rest, run, message, after, h⟩ := h
    obtain ⟨rfl, ne, all, -⟩ := run?_eq_some_iff.mp run
    obtain rfl := after?_eq_some_iff.mp after
    split at h
    · next c tail more =>
      obtain rfl := after?_eq_some_iff.mp more
      obtain rfl := Option.some.inj h
      exact ⟨⟨⟨ne, all⟩, c, tail, rfl⟩, rfl⟩
    · cases h
  · rintro ⟨⟨⟨ne, all⟩, c, rest, message⟩, rfl⟩
    simp only [numberAt, Option.bind_eq_bind, run?_body ⟨ne, all⟩, Option.bind_some, after?_append]
    rw [message, after?_append, ← message]

theorem locatedAt_eq_some_iff {text : List Char} {d : Diagnostic} :
    locatedAt text = some d ↔ d.IsReport ∧ text = d.located := by
  unfold locatedAt
  rw [Option.bind_eq_some_iff]
  constructor
  · rintro ⟨rest, after, number⟩
    obtain rfl := after?_eq_some_iff.mp after
    obtain ⟨report, rfl⟩ := numberAt_eq_some_iff.mp number
    exact ⟨report, rfl⟩
  · rintro ⟨report, rfl⟩
    exact ⟨d.body, after?_append _ _, numberAt_eq_some_iff.mpr ⟨report, rfl⟩⟩

theorem lastLocated_eq_none_iff {text : List Char} :
    lastLocated text = none ↔ ∀ d : Diagnostic, d.IsReport → ¬ d.located <:+ text := by
  induction text with
  | nil =>
    simp only [lastLocated, true_iff, List.suffix_nil]
    intro d _ h
    exact List.append_ne_nil_of_left_ne_nil (by decide) _ h
  | cons c cs ih =>
    rw [lastLocated, Option.or_eq_none_iff, ih]
    constructor
    · rintro ⟨later, here⟩ d report h
      rcases List.suffix_cons_iff.mp h with h | h
      · rw [locatedAt_eq_some_iff.mpr ⟨report, h.symm⟩] at here
        cases here
      · exact later d report h
    · intro h
      refine ⟨fun d report hs => h d report (hs.trans (List.suffix_cons c cs)), ?_⟩
      rw [Option.eq_none_iff_forall_ne_some]
      intro d found
      obtain ⟨report, eq⟩ := locatedAt_eq_some_iff.mp found
      exact h d report (eq ▸ List.suffix_rfl)

/-- The text of a place, up to the first character after `Error`. -/
def place (digits : List Char) (c : Char) : List Char :=
  "line ".toList ++ (digits ++ ("] Error".toList ++ [c]))

theorem place_def (digits : List Char) (c : Char) :
    place digits c = "line ".toList ++ (digits ++ ("] Error".toList ++ [c])) := rfl

theorem lastLocated_eq_none_iff_place {text : List Char} :
    lastLocated text = none ↔ ∀ digits c, IsNumber digits → ¬ place digits c <:+: text := by
  rw [lastLocated_eq_none_iff]
  constructor
  · rintro unlocated digits c number ⟨front, rest, rfl⟩
    refine unlocated ⟨digits, "Error".toList ++ c :: rest⟩ ⟨number, c, rest, rfl⟩ ⟨front, ?_⟩
    simp [located_def, body, place_def]
  · rintro unplaced d ⟨number, c, rest, message⟩ ⟨front, rfl⟩
    refine unplaced d.line c number ⟨front, rest, ?_⟩
    simp [located_def, body, place_def, message]

theorem lastLocated_of_suffix {text rest : List Char} (h : lastLocated text = none)
    (hs : rest <:+ text) : lastLocated rest = none :=
  lastLocated_eq_none_iff.mpr fun d report hd =>
    lastLocated_eq_none_iff.mp h d report (hd.trans hs)

theorem message_suffix_body (d : Diagnostic) : d.message <:+ d.body :=
  ⟨d.line ++ "] ".toList, by simp [body]⟩

/-- The last place is the one whose message holds no further place. -/
theorem lastLocated_eq_some {text : List Char} {d : Diagnostic} (h : lastLocated text = some d) :
    d.IsReport ∧ d.located <:+ text ∧ lastLocated d.message = none := by
  induction text with
  | nil => cases h
  | cons c cs ih =>
    rw [lastLocated, Option.or_eq_some_iff] at h
    rcases h with later | ⟨none_later, here⟩
    · obtain ⟨report, hs, last⟩ := ih later
      exact ⟨report, hs.trans (List.suffix_cons c cs), last⟩
    · obtain ⟨report, eq⟩ := locatedAt_eq_some_iff.mp here
      refine ⟨report, eq ▸ List.suffix_rfl, lastLocated_of_suffix none_later ?_⟩
      have ends : d.message <:+ "ine ".toList ++ d.body :=
        (message_suffix_body d).trans (List.suffix_append _ _)
      have tail : cs = "ine ".toList ++ d.body := (List.cons.inj eq).2
      rw [tail]
      exact ends

/-- Text without the letter that a place starts with moves no place. -/
theorem lastLocated_append {front : List Char} (h : 'l' ∉ front) (text : List Char) :
    lastLocated (front ++ text) = lastLocated text := by
  induction front with
  | nil => rfl
  | cons c cs ih =>
    rw [List.mem_cons, not_or] at h
    have here : locatedAt (c :: (cs ++ text)) = none := by
      simp [locatedAt, after?, h.1]
    rw [List.cons_append, lastLocated, here, ih h.2, Option.or_none]

theorem bracketAt_eq_some {text : List Char} {d : Diagnostic} (h : bracketAt text = some d) :
    d.IsReport ∧ d.body <:+ text ∧ lastLocated d.message = none := by
  unfold bracketAt at h
  split at h
  · next rest =>
    rcases Option.or_eq_some_iff.mp h with last | ⟨unlocated, number⟩
    · obtain ⟨report, hs, innermost⟩ := lastLocated_eq_some last
      have : d.body <:+ d.located := List.suffix_append _ _
      exact ⟨report, (this.trans hs).trans (List.suffix_cons '[' rest), innermost⟩
    · obtain ⟨report, rfl⟩ := numberAt_eq_some_iff.mp number
      exact ⟨report, List.suffix_cons '[' _,
        lastLocated_of_suffix unlocated (message_suffix_body d)⟩
  · cases h

/-- What a line reports ends the line, and its message holds no other report. -/
theorem recognise_eq_some {line : List Char} {d : Diagnostic} (h : recognise line = some d) :
    d.IsReport ∧ d.body <:+ line ∧ lastLocated d.message = none := by
  obtain ⟨⟨front, found⟩, left, rfl⟩ := Option.map_eq_some_iff.mp h
  obtain ⟨rest, rfl, bracket⟩ := leftmost_append left
  obtain ⟨report, hs, innermost⟩ := bracketAt_eq_some bracket
  exact ⟨report, hs.trans (List.suffix_append front rest), innermost⟩

example : recognise "[line 1] Error: see [line 2] Error: x".toList =
    some ⟨"2".toList, "Error: x".toList⟩ := by decide

theorem toList_normalForm (d : Diagnostic) : d.normalForm.toList = '[' :: d.body := by
  simp [normalForm, format, body]

theorem toList_format (line message : String) :
    (format line message).toList = '[' :: (line.toList ++ ']' :: ' ' :: message.toList) := by
  simp [format]

theorem not_mem_digits {digits : List Char} (h : ∀ c ∈ digits, isDigit c = true) :
    ']' ∉ digits := by
  intro mem
  exact absurd (h ']' mem) (by decide)

/-- The number of a normal form ends at the first closing bracket, since no digit is one. -/
theorem format_inj {line₁ line₂ message₁ message₂ : String}
    (digits₁ : ∀ c ∈ line₁.toList, isDigit c = true)
    (digits₂ : ∀ c ∈ line₂.toList, isDigit c = true)
    (same : format line₁ message₁ = format line₂ message₂) :
    line₁ = line₂ ∧ message₁ = message₂ := by
  have texts := congrArg String.toList same
  rw [toList_format, toList_format, List.cons.injEq] at texts
  have number := congrArg (List.takeWhile (· ≠ ']')) texts.2
  rw [takeWhile_ne_append (not_mem_digits digits₁), takeWhile_ne_append (not_mem_digits digits₂)]
    at number
  have rest := texts.2
  rw [number, List.append_cancel_left_eq, List.cons.injEq, List.cons.injEq] at rest
  exact ⟨String.toList_inj.mp number, String.toList_inj.mp rest.2.2⟩

-- With a bracket in the number, two diagnostics can share their normal form.
example : format "1" "2] Error" = format "1] 2" "Error" := by decide

theorem normalForm_injective {d₁ d₂ : Diagnostic} (h₁ : ∀ c ∈ d₁.line, isDigit c = true)
    (h₂ : ∀ c ∈ d₂.line, isDigit c = true) (same : d₁.normalForm = d₂.normalForm) : d₁ = d₂ := by
  rw [← String.toList_ofList (l := d₁.line)] at h₁
  rw [← String.toList_ofList (l := d₂.line)] at h₂
  obtain ⟨line, message⟩ := format_inj h₁ h₂ same
  exact congrArg₂ Diagnostic.mk (String.ofList_inj.mp line) (String.ofList_inj.mp message)

theorem lastLocated_body {d : Diagnostic} (number : IsNumber d.line) :
    lastLocated d.body = lastLocated d.message := by
  have quiet : 'l' ∉ d.line ++ "] ".toList := by
    have : 'l' ∉ d.line := number.not_mem (by decide)
    simp [this]
  rw [body, ← List.append_assoc, lastLocated_append quiet]

/-- A normal form is read as the diagnostic itself if its message holds no other. -/
theorem recognise_normalForm {d : Diagnostic} (report : d.IsReport)
    (innermost : lastLocated d.message = none) : recognise d.normalForm.toList = some d := by
  have unlocated : lastLocated d.body = none := by
    rw [lastLocated_body report.line, innermost]
  have number : numberAt d.body = some d := numberAt_eq_some_iff.mpr ⟨report, rfl⟩
  have front : bracketAt ('[' :: d.body) = some d := by
    simp [bracketAt, unlocated, number]
  rw [toList_normalForm, recognise, leftmost_of_front front, Option.map_some]

def printed (d : Diagnostic) : List Char := '[' :: d.located

/-- A diagnostic is read back from its line if its message holds no other. -/
theorem recognise_printed {d : Diagnostic} (report : d.IsReport)
    (innermost : lastLocated d.message = none) : recognise d.printed = some d := by
  have later : lastLocated ("ine ".toList ++ d.body) = none := by
    rw [lastLocated_append (by decide), lastLocated_body report.line, innermost]
  have last : lastLocated d.located = some d := by
    have here : locatedAt d.located = some d := locatedAt_eq_some_iff.mpr ⟨report, rfl⟩
    change (lastLocated ("ine ".toList ++ d.body)).or (locatedAt d.located) = some d
    rw [later, here, Option.none_or]
  have front : bracketAt d.printed = some d := by
    simp [printed, bracketAt, last]
  rw [recognise, leftmost_of_front front, Option.map_some]

theorem recognise_nil : recognise [] = none := rfl

/-- A line that holds a stack frame. -/
def HasFrame (line : List Char) : Prop :=
  ∃ digits, IsNumber digits ∧ "[line ".toList ++ (digits ++ "]".toList) <:+: line

theorem frameAt_isSome_iff {text : List Char} : (frameAt text).isSome = true ↔
    ∃ digits, IsNumber digits ∧ "[line ".toList ++ (digits ++ "]".toList) <+: text := by
  constructor
  · intro h
    obtain ⟨⟨digits, rest⟩, h⟩ := Option.isSome_iff_exists.mp h
    simp only [frameAt, Option.bind_eq_bind, Option.bind_eq_some_iff, Prod.exists] at h
    obtain ⟨behind, open_, number, close, run, last, closed, -⟩ := h
    obtain rfl := after?_eq_some_iff.mp open_
    obtain ⟨rfl, ne, all, -⟩ := run?_eq_some_iff.mp run
    obtain rfl := after?_eq_some_iff.mp closed
    exact ⟨number, ⟨ne, all⟩, last, by simp⟩
  · rintro ⟨digits, ⟨ne, all⟩, rest, rfl⟩
    have run : run? isDigit (digits ++ ("]".toList ++ rest)) = some (digits, "]".toList ++ rest) :=
      run?_append rest ne all (by decide)
    simp only [frameAt, Option.bind_eq_bind, List.append_assoc, after?_append, Option.bind_some,
      run, Option.isSome_some]

theorem isFrame_iff {line : List Char} : isFrame line = true ↔ HasFrame line := by
  unfold isFrame
  simp only [leftmost_isSome_iff, frameAt_isSome_iff, HasFrame, List.infix_iff_prefix_suffix]
  constructor
  · rintro ⟨rest, hs, digits, number, hp⟩
    exact ⟨digits, number, rest, hp, hs⟩
  · rintro ⟨digits, number, rest, hp, hs⟩
    exact ⟨rest, hs, digits, number, hp⟩

end Conformance.Diagnostic

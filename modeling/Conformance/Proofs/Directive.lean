import Conformance.Directive
import Conformance.Proofs.Text.Search

/-! # The directive of a line

What each recogniser accepts at the front of a text, and which directive a line has: one of the
first kind that starts anywhere in it, read where that kind starts first. The texts of a directive
are the end of its line. The message of a compile error starts with `Error`, its line number is a
number, and the message of a runtime error is not empty.
-/

namespace Conformance.Directive

open Conformance.Text

/-! ## What the recognisers accept -/

/-- A text without the blank that it may start with. -/
def withoutBlank (text : List Char) : List Char :=
  if text.head? = some ' ' then text.tail else text

def IsWord (text : List Char) : Prop := text ≠ [] ∧ ∀ c ∈ text, isWordChar c = true

/-- A comment that asks for a compile error on another line, up to the end of its own. -/
structure AsksFor (text : List Char) (tag : Option (List Char)) (digits message : List Char) :
    Prop where
  text_eq : text = "// [".toList ++ (tag.elim [] (· ++ " ".toList) ++
    ("line ".toList ++ (digits ++ ("] ".toList ++ message))))
  tag : ∀ word ∈ tag, IsWord word
  number : IsNumber digits
  begins : "Error".toList <+: message

theorem withoutBlank_suffix (text : List Char) : withoutBlank text <:+ text := by
  unfold withoutBlank
  split
  · exact List.tail_suffix text
  · exact List.suffix_rfl

theorem AsksFor.suffix {text digits message : List Char} {tag : Option (List Char)}
    (h : AsksFor text tag digits message) : message <:+ text := by
  rw [h.text_eq]
  simp only [← List.append_assoc]
  exact List.suffix_append _ message

theorem outputAt_eq_some_iff {text found : List Char} : outputAt text = some found ↔
    ∃ rest, text = "// expect:".toList ++ rest ∧ found = withoutBlank rest := by
  simp only [outputAt, Option.map_eq_some_iff, after?_eq_some_iff]
  refine exists_congr fun rest => and_congr_right fun _ => ?_
  rcases rest with _ | ⟨c, rest⟩
  · simp [withoutBlank, eq_comm]
  · by_cases blank : c = ' '
    · simp [withoutBlank, blank, eq_comm]
    · simp [withoutBlank, blank, eq_comm]

theorem messageAt_eq_some_iff {text message : List Char} :
    messageAt text = some message ↔ message = text ∧ "Error".toList <+: text := by
  unfold messageAt
  rw [Option.map_eq_some_iff]
  constructor
  · rintro ⟨rest, after, rfl⟩
    exact ⟨rfl, rest, (after?_eq_some_iff.mp after).symm⟩
  · rintro ⟨rfl, rest, eq⟩
    exact ⟨rest, after?_eq_some_iff.mpr eq.symm, rfl⟩

theorem errorAt?_eq_some_iff {text message : List Char} : errorAt? text = some message ↔
    text = "// ".toList ++ message ∧ "Error".toList <+: message := by
  simp only [errorAt?, Option.bind_eq_some_iff, after?_eq_some_iff, messageAt_eq_some_iff]
  constructor
  · rintro ⟨rest, rfl, rfl, begins⟩
    exact ⟨rfl, begins⟩
  · rintro ⟨rfl, begins⟩
    exact ⟨message, rfl, rfl, begins⟩

theorem numberedAt_eq_some_iff {text digits message : List Char} :
    numberedAt text = some (digits, message) ↔
      text = "line ".toList ++ (digits ++ ("] ".toList ++ message)) ∧ IsNumber digits ∧
        "Error".toList <+: message := by
  constructor
  · intro h
    simp only [numberedAt, Option.bind_eq_bind, Option.bind_eq_some_iff, Prod.exists] at h
    obtain ⟨behind, line, number, close, run, open_, bracket, found, at_, eq⟩ := h
    obtain ⟨rfl, rfl⟩ := Prod.mk.inj (Option.some.inj eq)
    obtain ⟨rfl, begins⟩ := messageAt_eq_some_iff.mp at_
    obtain ⟨rfl, ne, all, -⟩ := run?_eq_some_iff.mp run
    obtain rfl := after?_eq_some_iff.mp bracket
    exact ⟨after?_eq_some_iff.mp line, ⟨ne, all⟩, begins⟩
  · rintro ⟨rfl, ⟨ne, all⟩, begins⟩
    have run : run? isDigit (digits ++ ("] ".toList ++ message)) =
        some (digits, "] ".toList ++ message) := run?_append (' ' :: message) ne all (by decide)
    have found : messageAt message = some message := messageAt_eq_some_iff.mpr ⟨rfl, begins⟩
    simp only [numberedAt, Option.bind_eq_bind, after?_append, Option.bind_some, run, found]

theorem isWord_of_isAlphanum {text : List Char} (ne : text ≠ [])
    (all : text.all Char.isAlphanum = true) : IsWord text := by
  refine ⟨ne, fun c mem => ?_⟩
  simp [isWordChar, List.all_eq_true.mp all c mem]

theorem isWordChar_blank : isWordChar ' ' = false := by decide +kernel

theorem tagAt_eq_some_iff {text tag rest : List Char} :
    tagAt text = some (tag, rest) ↔ text = tag ++ (" ".toList ++ rest) ∧ IsWord tag := by
  constructor
  · intro h
    simp only [tagAt, Option.bind_eq_bind, Option.bind_eq_some_iff, Prod.exists] at h
    obtain ⟨word, behind, run, found, after, eq⟩ := h
    obtain ⟨rfl, rfl⟩ := Prod.mk.inj (Option.some.inj eq)
    obtain ⟨rfl, ne, all, -⟩ := run?_eq_some_iff.mp run
    obtain rfl := after?_eq_some_iff.mp after
    exact ⟨rfl, ne, all⟩
  · rintro ⟨rfl, ne, all⟩
    have run : run? isWordChar (tag ++ (" ".toList ++ rest)) = some (tag, " ".toList ++ rest) :=
      run?_append rest ne all isWordChar_blank
    simp only [tagAt, Option.bind_eq_bind, run, Option.bind_some, after?_append]

/-- A number is no place of its own, so that `line` before it is never taken for a tag. -/
theorem numberedAt_number {digits : List Char} (number : IsNumber digits) (rest : List Char) :
    numberedAt (digits ++ rest) = none := by
  obtain ⟨c, digits, rfl⟩ := List.exists_cons_of_ne_nil number.1
  have other : ¬ 'l' = c := by
    rintro rfl
    exact number.not_mem (by decide) List.mem_cons_self
  simp [numberedAt, after?, other]

theorem numberedErrorAt_eq_some_iff {text : List Char} {tag : Option (List Char)}
    {digits message : List Char} :
    numberedErrorAt text = some (tag, digits, message) ↔ AsksFor text tag digits message := by
  constructor
  · intro h
    obtain ⟨rest, after, read⟩ := Option.bind_eq_some_iff.mp h
    obtain rfl := after?_eq_some_iff.mp after
    simp only [Option.orElse_eq_orElse, Option.orElse_eq_or] at read
    rcases Option.or_eq_some_iff.mp read with tagged | ⟨-, untagged⟩
    · obtain ⟨⟨word, behind⟩, at_, found⟩ := Option.bind_eq_some_iff.mp tagged
      obtain ⟨⟨number, text⟩, numbered, eq⟩ := Option.map_eq_some_iff.mp found
      obtain ⟨rfl, rfl, rfl⟩ : some word = tag ∧ number = digits ∧ text = message := by
        simpa using eq
      obtain ⟨rfl, is_word⟩ := tagAt_eq_some_iff.mp at_
      obtain ⟨rfl, is_number, begins⟩ := numberedAt_eq_some_iff.mp numbered
      exact ⟨by simp, by simpa using is_word, is_number, begins⟩
    · obtain ⟨⟨number, text⟩, numbered, eq⟩ := Option.map_eq_some_iff.mp untagged
      obtain ⟨rfl, rfl, rfl⟩ : none = tag ∧ number = digits ∧ text = message := by
        simpa using eq
      obtain ⟨rfl, is_number, begins⟩ := numberedAt_eq_some_iff.mp numbered
      exact ⟨rfl, nofun, is_number, begins⟩
  · rintro ⟨rfl, words, number, begins⟩
    have numbered : numberedAt ("line ".toList ++ (digits ++ ("] ".toList ++ message))) =
        some (digits, message) := numberedAt_eq_some_iff.mpr ⟨rfl, number, begins⟩
    cases tag with
    | none =>
      have line : tagAt ("line ".toList ++ (digits ++ ("] ".toList ++ message))) =
          some ("line".toList, digits ++ ("] ".toList ++ message)) :=
        tagAt_eq_some_iff.mpr ⟨rfl, isWord_of_isAlphanum (by decide) (by decide)⟩
      simp only [numberedErrorAt, Option.bind_eq_bind, after?_append, Option.bind_some,
        Option.elim_none, List.nil_append, line, numberedAt_number number, numbered,
        Option.map_none, Option.map_some, Option.orElse_eq_orElse, Option.orElse_eq_or,
        Option.none_or]
    | some word =>
      have tagged : tagAt (word ++ " ".toList ++
          ("line ".toList ++ (digits ++ ("] ".toList ++ message)))) =
          some (word, "line ".toList ++ (digits ++ ("] ".toList ++ message))) :=
        tagAt_eq_some_iff.mpr ⟨List.append_assoc _ _ _, words word rfl⟩
      simp only [numberedErrorAt, Option.bind_eq_bind, after?_append, Option.bind_some,
        Option.elim_some, tagged, numbered, Option.map_some, Option.orElse_eq_orElse,
        Option.orElse_eq_or, Option.some_or]

theorem runtimeErrorAt_eq_some_iff {text message : List Char} :
    runtimeErrorAt text = some message ↔
      text = "// expect runtime error: ".toList ++ message ∧ message ≠ [] := by
  rw [← after?_eq_some_iff]
  unfold runtimeErrorAt
  split
  · next empty =>
    rw [empty]
    simp [eq_comm]
  · next nonempty =>
    constructor
    · intro found
      refine ⟨found, ?_⟩
      rintro rfl
      exact nonempty found
    · exact And.left

/-! ## The directive of a line -/

def StartsOutput (text : List Char) : Prop := "// expect:".toList <+: text

def StartsError (text : List Char) : Prop := "// Error".toList <+: text

def StartsNumberedError (text : List Char) : Prop :=
  ∃ tag digits message, AsksFor text tag digits message

def StartsRuntimeError (text : List Char) : Prop :=
  ∃ c rest, text = "// expect runtime error: ".toList ++ c :: rest

theorem outputAt_isSome_iff (text : List Char) :
    (outputAt text).isSome = true ↔ StartsOutput text := by
  rw [outputAt, Option.isSome_map, after?_isSome_iff, StartsOutput]

theorem StartsError.begins {message : List Char} (h : StartsError ("// ".toList ++ message)) :
    "Error".toList <+: message := by
  obtain ⟨rest, eq⟩ := h
  have same : "// ".toList ++ ("Error".toList ++ rest) = "// ".toList ++ message := eq
  exact ⟨rest, List.append_cancel_left same⟩

theorem StartsRuntimeError.ne_nil {message : List Char}
    (h : StartsRuntimeError ("// expect runtime error: ".toList ++ message)) : message ≠ [] := by
  obtain ⟨c, rest, eq⟩ := h
  rw [List.append_cancel_left eq]
  exact List.cons_ne_nil c rest

theorem errorAt?_isSome_iff (text : List Char) :
    (errorAt? text).isSome = true ↔ StartsError text := by
  simp only [Option.isSome_iff_exists, errorAt?_eq_some_iff, StartsError]
  constructor
  · rintro ⟨message, rfl, rest, rfl⟩
    exact ⟨rest, rfl⟩
  · rintro ⟨rest, rfl⟩
    exact ⟨"Error".toList ++ rest, rfl, List.prefix_append _ _⟩

theorem numberedErrorAt_isSome_iff (text : List Char) :
    (numberedErrorAt text).isSome = true ↔ StartsNumberedError text := by
  simp only [Option.isSome_iff_exists, Prod.exists, numberedErrorAt_eq_some_iff,
    StartsNumberedError]

theorem runtimeErrorAt_isSome_iff (text : List Char) :
    (runtimeErrorAt text).isSome = true ↔ StartsRuntimeError text := by
  simp only [Option.isSome_iff_exists, runtimeErrorAt_eq_some_iff, StartsRuntimeError]
  constructor
  · rintro ⟨message, rfl, nonempty⟩
    obtain ⟨c, rest, rfl⟩ := List.exists_cons_of_ne_nil nonempty
    exact ⟨c, rest, rfl⟩
  · rintro ⟨c, rest, rfl⟩
    exact ⟨c :: rest, rfl, List.cons_ne_nil c rest⟩

/-- The directive of a line: of the first kind that starts anywhere in it, where it does so first. -/
inductive InLine (line : List Char) : Directive → Prop where
  | output {rest : List Char} (first : FirstFrom StartsOutput line ("// expect:".toList ++ rest)) :
    InLine line (.output (String.ofList (withoutBlank rest)))
  | error {message : List Char} (no_output : ∀ k, ¬ StartsOutput (line.drop k))
      (first : FirstFrom StartsError line ("// ".toList ++ message)) :
    InLine line (.error (String.ofList message))
  | errorAt {rest : List Char} {tag : Option (List Char)} {digits message : List Char}
      (no_output : ∀ k, ¬ StartsOutput (line.drop k)) (no_error : ∀ k, ¬ StartsError (line.drop k))
      (first : FirstFrom StartsNumberedError line rest) (asks : AsksFor rest tag digits message) :
    InLine line
      (.errorAt (tag.map String.ofList) (String.ofList digits) (String.ofList message))
  | runtimeError {message : List Char} (no_output : ∀ k, ¬ StartsOutput (line.drop k))
      (no_error : ∀ k, ¬ StartsError (line.drop k))
      (no_numbered : ∀ k, ¬ StartsNumberedError (line.drop k))
      (first : FirstFrom StartsRuntimeError line
        ("// expect runtime error: ".toList ++ message)) :
    InLine line (.runtimeError (String.ofList message))

section

variable {line : List Char}

theorem outputAt_leftmost_none :
    leftmost outputAt line = none ↔ ∀ k, ¬ StartsOutput (line.drop k) :=
  leftmost_eq_none_iff_starts outputAt_isSome_iff

theorem errorAt_leftmost_none :
    leftmost errorAt? line = none ↔ ∀ k, ¬ StartsError (line.drop k) :=
  leftmost_eq_none_iff_starts errorAt?_isSome_iff

theorem numberedErrorAt_leftmost_none :
    leftmost numberedErrorAt line = none ↔ ∀ k, ¬ StartsNumberedError (line.drop k) :=
  leftmost_eq_none_iff_starts numberedErrorAt_isSome_iff

theorem runtimeErrorAt_leftmost_none :
    leftmost runtimeErrorAt line = none ↔ ∀ k, ¬ StartsRuntimeError (line.drop k) :=
  leftmost_eq_none_iff_starts runtimeErrorAt_isSome_iff

/-- A line without a directive has none of the four kinds anywhere. -/
theorem recognise_eq_none_iff : recognise line = none ↔
    ∀ k, ¬ StartsOutput (line.drop k) ∧ ¬ StartsError (line.drop k) ∧
      ¬ StartsNumberedError (line.drop k) ∧ ¬ StartsRuntimeError (line.drop k) := by
  simp only [forall_and, ← outputAt_leftmost_none, ← errorAt_leftmost_none,
    ← numberedErrorAt_leftmost_none, ← runtimeErrorAt_leftmost_none]
  unfold recognise
  cases leftmost outputAt line with
  | some found => simp
  | none =>
    cases leftmost errorAt? line with
    | some found => simp
    | none =>
      cases leftmost numberedErrorAt line with
      | some found => simp
      | none => cases leftmost runtimeErrorAt line <;> simp

theorem inLine_of_recognise {d : Directive} (h : recognise line = some d) : InLine line d := by
  unfold recognise at h
  split at h
  · next front text found =>
    obtain ⟨rest, first, at_⟩ := (exists_leftmost_iff outputAt_isSome_iff).mp ⟨front, found⟩
    obtain ⟨rest, rfl, rfl⟩ := outputAt_eq_some_iff.mp at_
    obtain rfl := Option.some.inj h
    exact .output first
  · next no_output =>
    rw [outputAt_leftmost_none] at no_output
    split at h
    · next front message found =>
      obtain ⟨rest, first, at_⟩ := (exists_leftmost_iff errorAt?_isSome_iff).mp ⟨front, found⟩
      obtain ⟨rfl, -⟩ := errorAt?_eq_some_iff.mp at_
      obtain rfl := Option.some.inj h
      exact .error no_output first
    · next no_error =>
      rw [errorAt_leftmost_none] at no_error
      split at h
      · next front tag digits message found =>
        obtain ⟨rest, first, at_⟩ :=
          (exists_leftmost_iff numberedErrorAt_isSome_iff).mp ⟨front, found⟩
        obtain rfl := Option.some.inj h
        exact .errorAt no_output no_error first (numberedErrorAt_eq_some_iff.mp at_)
      · next no_numbered =>
        rw [numberedErrorAt_leftmost_none] at no_numbered
        split at h
        · next front message found =>
          obtain ⟨rest, first, at_⟩ :=
            (exists_leftmost_iff runtimeErrorAt_isSome_iff).mp ⟨front, found⟩
          obtain ⟨rfl, -⟩ := runtimeErrorAt_eq_some_iff.mp at_
          obtain rfl := Option.some.inj h
          exact .runtimeError no_output no_error no_numbered first
        · cases h

end

/-! ## Directives and their lines -/

theorem recognise_eq_some_iff {line : List Char} {d : Directive} :
    recognise line = some d ↔ InLine line d := by
  refine ⟨inLine_of_recognise, ?_⟩
  intro h
  cases h with
  | output first =>
    obtain ⟨front, found⟩ := (exists_leftmost_iff outputAt_isSome_iff).mpr
      ⟨_, first, outputAt_eq_some_iff.mpr ⟨_, rfl, rfl⟩⟩
    rw [recognise, found]
  | error no_output first =>
    obtain ⟨front, found⟩ := (exists_leftmost_iff errorAt?_isSome_iff).mpr
      ⟨_, first, errorAt?_eq_some_iff.mpr ⟨rfl, first.starts.begins⟩⟩
    rw [recognise, outputAt_leftmost_none.mpr no_output, found]
  | errorAt no_output no_error first asks =>
    obtain ⟨front, found⟩ := (exists_leftmost_iff numberedErrorAt_isSome_iff).mpr
      ⟨_, first, numberedErrorAt_eq_some_iff.mpr asks⟩
    rw [recognise, outputAt_leftmost_none.mpr no_output, errorAt_leftmost_none.mpr no_error, found]
  | runtimeError no_output no_error no_numbered first =>
    obtain ⟨front, found⟩ := (exists_leftmost_iff runtimeErrorAt_isSome_iff).mpr
      ⟨_, first, runtimeErrorAt_eq_some_iff.mpr ⟨rfl, first.starts.ne_nil⟩⟩
    rw [recognise, outputAt_leftmost_none.mpr no_output, errorAt_leftmost_none.mpr no_error,
      numberedErrorAt_leftmost_none.mpr no_numbered, found]

/-- The texts of a directive as its line allows them. -/
def FitsLine (line : List Char) : Directive → Prop
  | .output text => text.toList <:+ line
  | .error message => "Error".toList <+: message.toList ∧ message.toList <:+ line
  | .errorAt _ number message =>
    IsNumber number.toList ∧ "Error".toList <+: message.toList ∧ message.toList <:+ line
  | .runtimeError message => message.toList ≠ [] ∧ message.toList <:+ line

theorem fitsLine_of_recognise {line : List Char} {d : Directive} (h : recognise line = some d) :
    d.FitsLine line := by
  cases inLine_of_recognise h with
  | @output rest first =>
    have ends : rest <:+ line := (List.suffix_append _ rest).trans first.suffix
    simpa [FitsLine] using (withoutBlank_suffix rest).trans ends
  | @error message _ first =>
    have ends : message <:+ line := (List.suffix_append _ message).trans first.suffix
    simpa [FitsLine] using And.intro first.starts.begins ends
  | errorAt _ _ first asks =>
    simpa [FitsLine] using And.intro asks.number (And.intro asks.begins
      (asks.suffix.trans first.suffix))
  | @runtimeError message _ _ _ first =>
    have ends : message <:+ line := (List.suffix_append _ message).trans first.suffix
    simpa [FitsLine] using And.intro first.starts.ne_nil ends

end Conformance.Directive

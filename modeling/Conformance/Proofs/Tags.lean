import Conformance.Fixture.Load
import Conformance.Proofs.Config.Validation
import Conformance.Proofs.Diagnostic
import Conformance.Proofs.FixtureLine
import Conformance.Proofs.Languages

/-! # Tags and languages

A tag is a word, while the language of an interpreter may be any text. What is tagged for a language
that is a word is read for it and for no other; what is tagged for any other language is not read
for it.
-/

namespace Conformance

open Conformance.Text Conformance.Directive

namespace Directive

def tagged (language digits message : List Char) : List Char :=
  "// [".toList ++ (language ++ " ".toList ++
    ("line ".toList ++ (digits ++ ("] ".toList ++ message))))

/-- A line that consists of such a comment, and in which no marker of another kind stands. -/
structure IsTagged (line : List Char) (language digits message : String) : Prop where
  line_eq : line = tagged language.toList digits.toList message.toList
  number : IsNumber digits.toList
  begins : "Error".toList <+: message.toList
  one_line : '\n' ∉ line
  in_test : ¬ "// nontest".toList <:+: line
  no_output : ¬ "// expect:".toList <:+: line
  no_error : ¬ "// Error".toList <:+: line

variable {line : List Char} {language digits message : String}

theorem IsTagged.inLine_of_isWord (h : IsTagged line language digits message)
    (word : IsWord language.toList) : InLine line (.errorAt (some language) digits message) := by
  have asks : AsksFor line (some language.toList) digits.toList message.toList := by
    refine ⟨h.line_eq, ?_, h.number, h.begins⟩
    rintro _ ⟨⟩
    exact word
  have first : FirstFrom StartsNumberedError line line :=
    ⟨0, ⟨⟨_, _, _, asks⟩, fun _ _ => Nat.zero_le _⟩, rfl⟩
  have no_output := not_exists.mp (mt infix_iff_exists_drop.mpr h.no_output)
  have no_error := not_exists.mp (mt infix_iff_exists_drop.mpr h.no_error)
  simpa using InLine.errorAt no_output no_error first asks

theorem exists_asksFor_of_inLine {tag : Option String}
    (holds : InLine line (.errorAt tag digits message)) :
    ∃ rest, rest <:+ line ∧
      AsksFor rest (tag.map String.toList) digits.toList message.toList := by
  generalize same : Directive.errorAt tag digits message = d at holds
  cases holds with
  | output => cases same
  | error => cases same
  | runtimeError => cases same
  | errorAt no_output no_error first asks =>
    obtain ⟨rfl, rfl, rfl⟩ := Directive.errorAt.inj same
    exact ⟨_, first.suffix, by simpa [Function.comp_def] using asks⟩

theorem isWord_of_inLine (holds : InLine line (.errorAt (some language) digits message)) :
    IsWord language.toList := by
  obtain ⟨rest, -, asks⟩ := exists_asksFor_of_inLine holds
  exact asks.tag language.toList rfl

/-- An untagged comment cannot end such a line: a blank stands where its bracket would. -/
theorem IsTagged.tag_ne_none (h : IsTagged line language digits message) {tag : Option String}
    (holds : InLine line (.errorAt tag digits message)) : tag ≠ none := by
  rintro rfl
  obtain ⟨rest, ⟨front, ends⟩, asks⟩ := exists_asksFor_of_inLine holds
  have whole : (front ++ "// [".toList) ++
        ("line ".toList ++ (digits.toList ++ ("] ".toList ++ message.toList))) =
      ("// [".toList ++ language.toList ++ " ".toList) ++
        ("line ".toList ++ (digits.toList ++ ("] ".toList ++ message.toList))) := by
    rw [asks.text_eq, h.line_eq] at ends
    simpa only [tagged, Option.map_none, Option.elim_none, List.nil_append, List.append_assoc]
      using ends
  have opened := congrArg List.getLast? (List.append_cancel_right whole)
  rw [List.getLast?_append_of_ne_nil _ (by decide),
    List.getLast?_append_of_ne_nil _ (by decide)] at opened
  exact absurd opened (by decide)

theorem IsTagged.not_inLine_error (h : IsTagged line language digits message)
    {other : String} : ¬ InLine line (.error other) := by
  intro holds
  cases holds with
  | error no_output first =>
    obtain ⟨k, ⟨starts, -⟩, -⟩ := first
    exact h.no_error (infix_iff_exists_drop.mpr ⟨k, starts⟩)

end Directive

namespace Fixture

variable {options : ReadingOptions} {line : List Char} {language digits message : String}
  {codes : ExitCodes}

theorem read_line (path : String) (given : line ≠ []) (one_line : '\n' ∉ line)
    (in_test : endsTest line = false) :
    read options path (String.ofList line) = .ok (recordLine options 1 {} line) := by
  have lines : sourceLines line = [line] := by
    rw [sourceLines, pieces_of_not_mem one_line, closeLines, if_neg given]
  have calm : (recordLine options 1 {} line).isConflicting = false := by
    have step : LineStep options 1 line {} (recordLine options 1 {} line) := lineStep_recordLine
    generalize recordLine options 1 {} line = e at step
    cases step <;> rfl
  have all : expectations options (String.ofList line) = .ok (recordLine options 1 {} line) := by
    rw [expectations, String.toList_ofList, lines]
    simp [recordLines, in_test, calm]
  rw [read, all]

def onlyError (codes : ExitCodes) (digits message : String) : Expectations :=
  { errors := [Diagnostic.format digits message], exitCode := codes.compileError, count := 1 }

theorem recordLine_of_isWord (h : IsTagged line language digits message)
    (word : IsWord language.toList) (number : Nat) (e : Expectations) :
    recordLine ⟨some language, codes⟩ number e line =
      { e.addError (Diagnostic.format digits message) with
        exitCode := codes.compileError, count := e.count + 1 } :=
  LineStep.eq_recordLine (.errorAt (h.inLine_of_isWord word) (.inr rfl))

theorem recordLine_of_other (h : IsTagged line language digits message)
    (word : IsWord language.toList) {other : Option String} (differs : other ≠ some language)
    (number : Nat) (e : Expectations) : recordLine ⟨other, codes⟩ number e line = e :=
  LineStep.eq_recordLine (.otherLanguage (h.inLine_of_isWord word) differs)

theorem recordLine_iff (h : IsTagged line language digits message) :
    recordLine ⟨some language, codes⟩ 1 {} line = onlyError codes digits message ↔
      IsWord language.toList := by
  constructor
  · intro recorded
    have errors := congrArg Expectations.errors recorded
    have step : LineStep ⟨some language, codes⟩ 1 line {}
        (recordLine ⟨some language, codes⟩ 1 {} line) := lineStep_recordLine
    generalize recordLine ⟨some language, codes⟩ 1 {} line = e at step errors
    cases step with
    | output | otherLanguage | runtimeError | nothing => cases errors
    | error holds => exact absurd holds h.not_inLine_error
    | @errorAt tag digits' message' holds ours =>
      obtain ⟨number, -⟩ := fitsLine_of_recognise (recognise_eq_some_iff.mpr holds)
      obtain ⟨rfl, rfl⟩ := Diagnostic.format_inj number.2 h.number.2 (List.singleton_inj.mp errors)
      obtain rfl := ours.resolve_left (h.tag_ne_none holds)
      exact isWord_of_inLine holds
  · intro word
    exact recordLine_of_isWord h word 1 {}

theorem IsTagged.read_eq (h : IsTagged line language digits message) (path : String) :
    read options path (String.ofList line) = .ok (recordLine options 1 {} line) := by
  refine read_line path ?_ h.one_line ?_
  · rw [h.line_eq, tagged]
    exact List.append_ne_nil_of_left_ne_nil (by decide) _
  · rw [← Bool.not_eq_true, endsTest, occurs_iff]
    exact h.in_test

/-- Any text may be the language of a suite. What is tagged for it is read for it exactly if it is a
word; then nothing is read for any other language. -/
theorem read_tagged (codes : ExitCodes) (path : String)
    (h : IsTagged line language digits message) :
    (∃ c : Config, c.IsValid ∧ ∃ s ∈ c.suites, s.language = some language) ∧
      (read ⟨some language, codes⟩ path (String.ofList line) =
        .ok (onlyError codes digits message) ↔ IsWord language.toList) ∧
      (IsWord language.toList → ∀ number e,
        recordLine ⟨some language, codes⟩ number e line =
          { e.addError (Diagnostic.format digits message) with
            exitCode := codes.compileError, count := e.count + 1 } ∧
        ∀ other, other ≠ some language →
          recordLine ⟨other, codes⟩ number e line = e ∧
            read ⟨other, codes⟩ path (String.ofList line) = .ok {}) := by
  refine ⟨?_, ?_, ?_⟩
  · have valid : Config.IsValid
        { suites := [{ name := "lox", executable := "lox", language := some language }] } :=
      Config.problem_eq_none_iff.mp rfl
    exact ⟨_, valid, _, List.mem_cons_self, rfl⟩
  · rw [IsTagged.read_eq h, Except.ok.injEq]
    exact recordLine_iff h
  · intro word number e
    refine ⟨recordLine_of_isWord h word number e, fun other differs => ⟨?_, ?_⟩⟩
    · exact recordLine_of_other h word differs number e
    · rw [IsTagged.read_eq h, recordLine_of_other h word differs]

/-- A language that no tag can name. -/
theorem read_tagged_plus :
    IsTagged "// [c++ line 3] Error: x".toList "c++" "3" "Error: x" ∧
      read ⟨some "c++", {}⟩ "one.lox" (String.ofList "// [c++ line 3] Error: x".toList) ≠
        .ok (onlyError {} "3" "Error: x") := by
  have isTagged : IsTagged "// [c++ line 3] Error: x".toList "c++" "3" "Error: x" := by
    constructor <;> decide
  have other : ¬ IsWord "c++".toList := by
    intro word
    have plus : isWordChar '+' = false := by decide +kernel
    have letter := word.2 '+' (by decide)
    rw [plus] at letter
    cases letter
  obtain ⟨-, reads, -⟩ := read_tagged {} "one.lox" isTagged
  exact ⟨isTagged, mt reads.mp other⟩

end Fixture

end Conformance

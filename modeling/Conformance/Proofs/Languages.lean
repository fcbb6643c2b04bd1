import Conformance.Proofs.Directive
import Conformance.Proofs.LineEnds

/-! # Fixtures for one language

Tags choose the compile errors that one language has to report. Choosing them in the source gives
the same expectations as choosing them while it is read: a line tagged for the language loses its
tag, a line tagged for another is emptied, and every line keeps its end. Reading takes the same step
at a line and at what replaces it, and ends the test at the same line.
-/

namespace Conformance

namespace Text

/-! ## Lines with their ends -/

/-- What ends a line that is followed by a newline in its source. -/
def lineEnd (piece : List Char) : List Char :=
  if piece.getLast? = some '\r' then ['\r', '\n'] else ['\n']

/-- Each line with its end, out of the pieces of a source; the last line may have no end. -/
def withEnds : List (List Char) → List (List Char × List Char)
  | [] => []
  | [last] => if last = [] then [] else [(last, [])]
  | piece :: rest => (dropReturn piece, lineEnd piece) :: withEnds rest

def splitEnds (text : List Char) : List (List Char × List Char) := withEnds (pieces text)

def joinEnds (lines : List (List Char × List Char)) : List Char :=
  lines.flatMap fun (line, ending) => line ++ ending

/-- Lines that are read back from the text that they make up with their ends. -/
inductive Ended : List (List Char × List Char) → Prop where
  | nil : Ended []
  | last {line : List Char} (no_newline : '\n' ∉ line) : Ended [(line, [])]
  | newline {line : List Char} {rest : List (List Char × List Char)} (no_newline : '\n' ∉ line)
      (no_return : line.getLast? ≠ some '\r') (ended : Ended rest) :
    Ended ((line, ['\n']) :: rest)
  | returned {line : List Char} {rest : List (List Char × List Char)} (no_newline : '\n' ∉ line)
      (ended : Ended rest) : Ended ((line, ['\r', '\n']) :: rest)

theorem joinEnds_cons (line ending : List Char) (lines : List (List Char × List Char)) :
    joinEnds ((line, ending) :: lines) = line ++ (ending ++ joinEnds lines) := by
  rw [joinEnds, List.flatMap_cons, List.append_assoc]
  rfl

theorem withEnds_cons {rest : List (List Char)} (h : rest ≠ []) (piece : List Char) :
    withEnds (piece :: rest) = (dropReturn piece, lineEnd piece) :: withEnds rest := by
  obtain ⟨next, rest, rfl⟩ := List.exists_cons_of_ne_nil h
  rfl

theorem dropReturn_append_lineEnd (piece : List Char) :
    dropReturn piece ++ lineEnd piece = piece ++ ['\n'] := by
  unfold dropReturn lineEnd
  by_cases last : piece.getLast? = some '\r'
  · have whole : piece.dropLast ++ ['\r'] = piece := List.dropLast_append_getLast? '\r' last
    rw [if_pos last, if_pos last]
    conv_rhs => rw [← whole, List.append_assoc]
    rfl
  · rw [if_neg last, if_neg last]

theorem joinEnds_withEnds {pieces : List (List Char)} (h : pieces ≠ []) :
    joinEnds (withEnds pieces) ++ ['\n'] = unlines pieces := by
  induction pieces with
  | nil => exact absurd rfl h
  | cons piece rest ih =>
    by_cases alone : rest = []
    · subst alone
      by_cases blank : piece = []
      · subst blank
        rfl
      · simp [withEnds, blank, joinEnds, unlines]
    · rw [withEnds_cons alone, joinEnds_cons, ← List.append_assoc, dropReturn_append_lineEnd,
        List.append_assoc, List.append_assoc, ih alone, unlines_cons]
      rfl

/-- No character is lost between the lines and their ends. -/
theorem joinEnds_splitEnds (text : List Char) : joinEnds (splitEnds text) = text := by
  have joined := joinEnds_withEnds (pieces_ne_nil text)
  rw [unlines_pieces] at joined
  exact List.append_cancel_right joined

theorem not_mem_dropReturn {piece : List Char} {c : Char} (h : c ∉ piece) :
    c ∉ dropReturn piece := by
  unfold dropReturn
  split
  · intro mem
    exact h (List.mem_of_mem_dropLast mem)
  · exact h

theorem ended_withEnds {pieces : List (List Char)} (h : ∀ piece ∈ pieces, '\n' ∉ piece) :
    Ended (withEnds pieces) := by
  induction pieces with
  | nil => exact .nil
  | cons piece rest ih =>
    have here := h piece List.mem_cons_self
    by_cases alone : rest = []
    · subst alone
      unfold withEnds
      split
      · exact .nil
      · exact .last here
    · have later := ih fun other mem => h other (List.mem_cons_of_mem _ mem)
      rw [withEnds_cons alone, lineEnd]
      split
      · exact .returned (not_mem_dropReturn here) later
      · next other =>
        have kept : dropReturn piece = piece := if_neg other
        rw [kept]
        exact .newline here other later

theorem ended_splitEnds (text : List Char) : Ended (splitEnds text) :=
  ended_withEnds fun _ mem => not_mem_of_mem_pieces mem

theorem pieces_of_not_mem {line : List Char} (h : '\n' ∉ line) : pieces line = [line] := by
  induction line with
  | nil => rfl
  | cons c line ih =>
    rw [List.mem_cons, not_or] at h
    exact pieces_cons (Ne.symm h.1) (ih h.2)

theorem sourceLines_append_newline {piece : List Char} (h : '\n' ∉ piece) (text : List Char) :
    sourceLines (piece ++ '\n' :: text) = dropReturn piece :: sourceLines text := by
  rw [sourceLines, pieces_append_newline, pieces_of_not_mem h, List.singleton_append,
    closeLines_cons (pieces_ne_nil text)]
  rfl

/-- The lines of a text that is made up of lines and their ends, but for a blank line without
end. -/
theorem Ended.sourceLines_joinEnds {lines : List (List Char × List Char)} (h : Ended lines) :
    ∃ blank, (blank = [] ∨ blank = [[]]) ∧
      lines.map Prod.fst = sourceLines (joinEnds lines) ++ blank := by
  induction h with
  | nil => exact ⟨[], Or.inl rfl, rfl⟩
  | @last line no_newline =>
    have read : sourceLines (joinEnds [(line, [])]) = if line = [] then [] else [line] := by
      rw [joinEnds_cons, sourceLines]
      simp only [joinEnds, List.flatMap_nil, List.append_nil, pieces_of_not_mem no_newline,
        closeLines]
    -- without its end an emptied last line is no line of the text
    by_cases blank : line = []
    · rw [read, if_pos blank, blank]
      exact ⟨[[]], Or.inr rfl, rfl⟩
    · rw [read, if_neg blank]
      exact ⟨[], Or.inl rfl, rfl⟩
  | @newline line rest no_newline no_return ended ih =>
    obtain ⟨blank, few, split⟩ := ih
    have kept : dropReturn line = line := if_neg no_return
    have read : sourceLines (joinEnds ((line, ['\n']) :: rest)) =
        line :: sourceLines (joinEnds rest) := by
      rw [joinEnds_cons, List.singleton_append, sourceLines_append_newline no_newline, kept]
    exact ⟨blank, few, by rw [read, List.map_cons, split, List.cons_append]⟩
  | @returned line rest no_newline ended ih =>
    obtain ⟨blank, few, split⟩ := ih
    have no_newline' : '\n' ∉ line ++ ['\r'] := by
      simpa using no_newline
    have read : sourceLines (joinEnds ((line, ['\r', '\n']) :: rest)) =
        line :: sourceLines (joinEnds rest) := by
      have text : joinEnds ((line, ['\r', '\n']) :: rest) =
          (line ++ ['\r']) ++ '\n' :: joinEnds rest := by
        rw [joinEnds_cons, List.append_assoc]
        rfl
      rw [text, sourceLines_append_newline no_newline', dropReturn_append]
    exact ⟨blank, few, by rw [read, List.map_cons, split, List.cons_append]⟩

end Text

open Conformance.Text

/-! ## Lines without their tags -/

namespace Directive

def untagged (digits message : List Char) : List Char :=
  "// [line ".toList ++ (digits ++ ("] ".toList ++ message))

theorem untagged_def (digits message : List Char) :
    untagged digits message = "// [line ".toList ++ (digits ++ ("] ".toList ++ message)) := rfl

/-- A line as an interpreter for one language has to read it. -/
def selectLine (language : Option String) (line : List Char) : List Char :=
  match recognise line with
  | some (.errorAt (some tag) digits message) =>
    if language = some tag then untagged digits.toList message.toList else []
  | _ => line

theorem recognise_nil : recognise [] = none := rfl

theorem infix_iff_exists_drop {needle line : List Char} :
    needle <:+: line ↔ ∃ k, needle <+: line.drop k := by
  rw [List.infix_iff_prefix_suffix]
  constructor
  · rintro ⟨rest, starts, front, rfl⟩
    exact ⟨front.length, by rwa [List.drop_left]⟩
  · rintro ⟨k, starts⟩
    exact ⟨line.drop k, starts, List.drop_suffix k line⟩

theorem infix_of_slashless {needle front rest : List Char} (slashless : '/' ∉ front)
    (h : '/' :: needle <:+: front ++ rest) : '/' :: needle <:+: rest := by
  induction front with
  | nil => exact h
  | cons c front ih =>
    rw [List.mem_cons, not_or] at slashless
    rw [List.cons_append, List.infix_cons_iff, List.cons_prefix_cons] at h
    rcases h with ⟨slash, -⟩ | h
    · exact absurd slash slashless.1
    · exact ih slashless.2 h

/-- Only the message of such a comment can hold a marker of another kind. -/
theorem infix_message {digits message needle : List Char} {c : Char} (number : IsNumber digits)
    (kind : c ≠ '[') (h : '/' :: '/' :: ' ' :: c :: needle <:+: untagged digits message) :
    '/' :: '/' :: ' ' :: c :: needle <:+: message := by
  have slashless : '/' ∉ "line ".toList ++ (digits ++ "] ".toList) := by
    have digits_slashless : '/' ∉ digits := number.not_mem (by decide)
    simp [digits_slashless]
  have opened : untagged digits message =
      '/' :: '/' :: ' ' :: '[' :: (("line ".toList ++ (digits ++ "] ".toList)) ++ message) := by
    rw [untagged_def, List.append_assoc, List.append_assoc]
    rfl
  rw [opened] at h
  -- a marker starts with two slashes, and those before the message open a bracket
  simp only [List.infix_cons_iff, List.cons_prefix_cons] at h
  rcases h with ⟨-, -, -, same, -⟩ | ⟨-, slash, -⟩ | ⟨slash, -⟩ | ⟨slash, -⟩ | h
  · exact absurd same kind
  · exact absurd slash (by decide)
  · exact absurd slash (by decide)
  · exact absurd slash (by decide)
  · exact infix_of_slashless slashless h

/-- A line that asks for a compile error on another line. -/
structure AsksElsewhere (line digits message : List Char) : Prop where
  number : IsNumber digits
  begins : "Error".toList <+: message
  ends : message <:+ line
  no_output : ¬ "// expect:".toList <:+: line
  no_error : ¬ "// Error".toList <:+: line

theorem asksElsewhere_of_recognise {line : List Char} {tag : Option String}
    {digits message : String} (h : recognise line = some (.errorAt tag digits message)) :
    AsksElsewhere line digits.toList message.toList := by
  obtain ⟨number, begins, ends⟩ := fitsLine_of_recognise h
  have holds := inLine_of_recognise h
  generalize same : Directive.errorAt tag digits message = d at holds
  cases holds with
  | output first => cases same
  | error no_output first => cases same
  | runtimeError no_output no_error no_numbered first => cases same
  | errorAt no_output no_error first asks =>
    refine ⟨number, begins, ends, ?_, ?_⟩
    · rw [infix_iff_exists_drop, not_exists]
      exact no_output
    · rw [infix_iff_exists_drop, not_exists]
      exact no_error

theorem recognise_untagged {line digits message : List Char}
    (h : AsksElsewhere line digits message) :
    recognise (untagged digits message) =
      some (.errorAt none (String.ofList digits) (String.ofList message)) := by
  have asks : AsksFor (untagged digits message) none digits message :=
    ⟨rfl, nofun, h.number, h.begins⟩
  refine recognise_eq_some_iff.mpr (.errorAt ?_ ?_ ?_ asks)
  · rw [← not_exists]
    intro found
    have inside := infix_message h.number (by decide) (infix_iff_exists_drop.mpr found)
    exact h.no_output (inside.trans h.ends.isInfix)
  · rw [← not_exists]
    intro found
    have inside := infix_message h.number (by decide) (infix_iff_exists_drop.mpr found)
    exact h.no_error (inside.trans h.ends.isInfix)
  · exact ⟨0, ⟨⟨none, digits, message, asks⟩, fun _ _ => Nat.zero_le _⟩, rfl⟩

section

variable {line digits message : List Char}

theorem endsTest_untagged (number : IsNumber digits) (ends : message <:+ line)
    (goes_on : endsTest line = false) : endsTest (untagged digits message) = false := by
  rw [← Bool.not_eq_true, endsTest, occurs_iff]
  intro marked
  have inside := infix_message number (by decide) marked
  have before : endsTest line = true := occurs_iff.mpr (inside.trans ends.isInfix)
  rw [goes_on] at before
  cases before

theorem not_mem_untagged (number : IsNumber digits) (ends : message <:+ line)
    (no_newline : '\n' ∉ line) : '\n' ∉ untagged digits message := by
  have digits_newline : '\n' ∉ digits := number.not_mem (by decide)
  have message_newline : '\n' ∉ message := fun mem => no_newline (ends.subset mem)
  rw [untagged_def]
  simp [digits_newline, message_newline]

theorem getLast?_untagged (begins : "Error".toList <+: message) (ends : message <:+ line) :
    (untagged digits message).getLast? = line.getLast? := by
  have given : message ≠ [] := by
    rintro rfl
    simp at begins
  obtain ⟨front, rfl⟩ := ends
  rw [untagged_def, ← List.append_assoc, ← List.append_assoc,
    List.getLast?_append_of_ne_nil _ given, List.getLast?_append_of_ne_nil _ given]

end

section

variable {language other : Option String} {line : List Char}

theorem selectLine_of_tagged {tag digits message : String}
    (h : recognise line = some (.errorAt (some tag) digits message)) :
    selectLine language line =
      if language = some tag then untagged digits.toList message.toList else [] := by
  rw [selectLine, h]

theorem selectLine_of_not_tagged
    (h : ¬ ∃ tag digits message, recognise line = some (.errorAt (some tag) digits message)) :
    selectLine language line = line := by
  unfold selectLine
  split
  · next tag digits message recognised => exact absurd ⟨tag, digits, message, recognised⟩ h
  · rfl

theorem selectLine_cases (language : Option String) (line : List Char) :
    selectLine language line = line ∨ selectLine language line = [] ∨
      ∃ digits message, AsksElsewhere line digits message ∧
        selectLine language line = untagged digits message := by
  by_cases tagged : ∃ tag digits message, recognise line = some (.errorAt (some tag) digits message)
  · obtain ⟨tag, digits, message, recognised⟩ := tagged
    rw [selectLine_of_tagged recognised]
    by_cases ours : language = some tag
    · rw [if_pos ours]
      exact Or.inr (Or.inr ⟨_, _, asksElsewhere_of_recognise recognised, rfl⟩)
    · rw [if_neg ours]
      exact Or.inr (Or.inl rfl)
  · exact Or.inl (selectLine_of_not_tagged tagged)

theorem endsTest_selectLine (goes_on : endsTest line = false) :
    endsTest (selectLine language line) = false := by
  rcases selectLine_cases language line with same | emptied | ⟨digits, message, asks, replaced⟩
  · rw [same, goes_on]
  · rw [emptied]
    rfl
  · rw [replaced, endsTest_untagged asks.number asks.ends goes_on]

theorem not_mem_selectLine (no_newline : '\n' ∉ line) : '\n' ∉ selectLine language line := by
  rcases selectLine_cases language line with same | emptied | ⟨digits, message, asks, replaced⟩
  · rwa [same]
  · rw [emptied]
    exact List.not_mem_nil
  · rw [replaced]
    exact not_mem_untagged asks.number asks.ends no_newline

theorem getLast?_selectLine (no_return : line.getLast? ≠ some '\r') :
    (selectLine language line).getLast? ≠ some '\r' := by
  rcases selectLine_cases language line with same | emptied | ⟨digits, message, asks, replaced⟩
  · rwa [same]
  · rw [emptied]
    exact nofun
  · rwa [replaced, getLast?_untagged asks.begins asks.ends]

end

end Directive

/-! ## Sources for one language -/

namespace Fixture

open Conformance.Directive

def selectLines (language : Option String) :
    List (List Char × List Char) → List (List Char × List Char)
  | [] => []
  | (line, ending) :: rest =>
    if endsTest line then (line, ending) :: rest
    else (selectLine language line, ending) :: selectLines language rest

def select (language : Option String) (source : String) : String :=
  String.ofList (joinEnds (selectLines language (splitEnds source.toList)))

variable {codes : ExitCodes} {language other : Option String}

theorem ended_selectLines {lines : List (List Char × List Char)} (h : Ended lines) :
    Ended (selectLines language lines) := by
  induction h with
  | nil => exact .nil
  | last no_newline =>
    unfold selectLines
    split
    · exact .last no_newline
    · exact .last (not_mem_selectLine no_newline)
  | newline no_newline no_return ended ih =>
    unfold selectLines
    split
    · exact .newline no_newline no_return ended
    · exact .newline (not_mem_selectLine no_newline) (getLast?_selectLine no_return) ih
  | returned no_newline ended ih =>
    unfold selectLines
    split
    · exact .returned no_newline ended
    · exact .returned (not_mem_selectLine no_newline) ih

theorem recordLine_of_not_tagged {line : List Char} (number : Nat) (e : Expectations)
    (h : ¬ ∃ tag digits message, recognise line = some (.errorAt (some tag) digits message)) :
    recordLine ⟨other, codes⟩ number e line = recordLine ⟨language, codes⟩ number e line := by
  unfold recordLine
  cases recognised : recognise line with
  | none => rfl
  | some d =>
    cases d with
    | errorAt tag digits message =>
      cases tag with
      | none => rfl
      | some tag => exact absurd ⟨tag, digits, message, recognised⟩ h
    | output text => rfl
    | error message => rfl
    | runtimeError message => rfl

/-- A line and what replaces it for a language add the same to the expectations. -/
theorem recordLine_selectLine (number : Nat) (e : Expectations) (line : List Char) :
    recordLine ⟨other, codes⟩ number e (selectLine language line) =
      recordLine ⟨language, codes⟩ number e line := by
  by_cases tagged : ∃ tag digits message, recognise line = some (.errorAt (some tag) digits message)
  · obtain ⟨tag, digits, message, recognised⟩ := tagged
    rw [selectLine_of_tagged recognised]
    by_cases ours : language = some tag
    · have replaced := recognise_untagged (asksElsewhere_of_recognise recognised)
      rw [if_pos ours, recordLine, recordLine, replaced, recognised]
      simp [Expectations.record, Directive.applies, ours, Expectations.addDirective]
    · rw [if_neg ours, recordLine, recordLine, recognised]
      simp [Expectations.record, Directive.applies, ours, recognise_nil]
  · rw [selectLine_of_not_tagged tagged]
    exact recordLine_of_not_tagged number e tagged

theorem recordLines_selectLines (number : Nat) (e : Expectations)
    (lines : List (List Char × List Char)) :
    recordLines ⟨other, codes⟩ number e ((selectLines language lines).map Prod.fst) =
      recordLines ⟨language, codes⟩ number e (lines.map Prod.fst) := by
  induction lines generalizing number e with
  | nil => rfl
  | cons entry lines ih =>
    obtain ⟨line, ending⟩ := entry
    unfold selectLines
    by_cases ends : endsTest line = true
    · rw [if_pos ends]
      simp [recordLines, ends]
    · have goes_on := Bool.not_eq_true _ ▸ ends
      rw [if_neg ends]
      simp only [List.map_cons, recordLines, goes_on, endsTest_selectLine goes_on,
        Bool.false_eq_true, if_false, recordLine_selectLine]
      rw [ih]

/-- A blank line at the end adds nothing to expectations without a conflict. -/
theorem recordLines_append_blank (options : ReadingOptions) (number : Nat) {e : Expectations}
    (calm : e.isConflicting = false) (lines : List (List Char)) :
    recordLines options number e (lines ++ [[]]) = recordLines options number e lines := by
  induction lines generalizing number e with
  | nil =>
    have nothing : recordLine options number e [] = e := rfl
    have goes_on : endsTest [] = false := rfl
    simp [recordLines, nothing, goes_on, calm]
  | cons line lines ih =>
    rw [List.cons_append]
    unfold recordLines
    split
    · rfl
    · dsimp only
      split
      · rfl
      · next quiet => exact ih (number + 1) (Bool.not_eq_true _ ▸ quiet)

theorem expectations_joinEnds (options : ReadingOptions) {lines : List (List Char × List Char)}
    (h : Ended lines) :
    expectations options (String.ofList (joinEnds lines)) =
      recordLines options 1 {} (lines.map Prod.fst) := by
  obtain ⟨blank, few, split⟩ := h.sourceLines_joinEnds
  rw [expectations, String.toList_ofList, split]
  rcases few with rfl | rfl
  · rw [List.append_nil]
  · rw [recordLines_append_blank options 1 rfl]

/-- A source made up for one language says the same to every interpreter as the source says to one
of that language. -/
theorem read_select (codes : ExitCodes) (path source : String) (language other : Option String) :
    read ⟨other, codes⟩ path (select language source) = read ⟨language, codes⟩ path source := by
  have whole : source = String.ofList (joinEnds (splitEnds source.toList)) := by
    rw [joinEnds_splitEnds, String.ofList_toList]
  have ended := ended_splitEnds source.toList
  have same : expectations ⟨other, codes⟩ (select language source) =
      expectations ⟨language, codes⟩ source := by
    conv_rhs => rw [whole]
    rw [select, expectations_joinEnds _ (ended_selectLines ended), expectations_joinEnds _ ended]
    exact recordLines_selectLines 1 {} _
  rw [read, read, same]

example : read ⟨none, {}⟩ "two.lox"
    (select (some "c") "// [c line 2] Error: a\r\n// [java line 3] Error: b") =
      .ok { errors := ["[2] Error: a"], exitCode := 65, count := 1 } := by
  decide +kernel

end Fixture

end Conformance

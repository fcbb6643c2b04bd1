import Conformance.Proofs.FixtureLine
import Conformance.Proofs.Languages
import Conformance.Proofs.WholeFixture

/-! # Compile errors with and without a number

A comment that asks for a compile error on its own line says the same as one that gives the number
of that line. One form may replace the other in any line of the test: reading takes the same step
there and the same steps after it, and so comes to the same expectations or to the same conflict.
-/

namespace Conformance

open Conformance.Text Conformance.Directive

namespace Text

/-- A text with one of its lines replaced. Lines are numbered from one, and each keeps its end. -/
def replaceLine (text : List Char) (number : Nat) (line : List Char) : List Char :=
  joinEnds ((splitEnds text).modify (number - 1) fun old => (line, old.2))

theorem map_fst_splitEnds (text : List Char) :
    (splitEnds text).map Prod.fst = sourceLines text := by
  unfold splitEnds sourceLines
  induction pieces text with
  | nil => rfl
  | cons piece rest ih =>
    cases rest with
    | nil => by_cases blank : piece = [] <;> simp [withEnds, closeLines, blank]
    | cons next rest => rw [withEnds, closeLines, List.map_cons, ih] <;> simp

theorem Ended.modify {lines : List (List Char × List Char)} (h : Ended lines) {k : Nat}
    {line : List Char} (no_newline : '\n' ∉ line)
    (no_return : ∀ old ∈ lines[k]?, old.1.getLast? ≠ some '\r' → line.getLast? ≠ some '\r') :
    Ended (lines.modify k fun old => (line, old.2)) := by
  induction h generalizing k with
  | nil =>
    rw [List.modify_nil]
    exact .nil
  | last no_newline' =>
    cases k with
    | zero => exact .last no_newline
    | succ k =>
      rw [List.modify_succ_cons, List.modify_nil]
      exact .last no_newline'
  | newline no_newline' no_return' ended ih =>
    cases k with
    | zero => exact .newline no_newline (no_return _ rfl no_return') ended
    | succ k => exact .newline no_newline' no_return' (ih no_return)
  | returned no_newline' ended ih =>
    cases k with
    | zero => exact .returned no_newline ended
    | succ k => exact .returned no_newline' (ih no_return)

end Text

namespace Directive

theorem begins_ends_of_error {line : List Char} {message : String}
    (bare : InLine line (.error message)) :
    "Error".toList <+: message.toList ∧ message.toList <:+ line :=
  fitsLine_of_recognise (recognise_eq_some_iff.mpr bare)

theorem asksElsewhere_of_error {line : List Char} {message : String}
    (bare : InLine line (.error message)) (alone : ¬ "// Error".toList <:+: message.toList)
    {digits : List Char} (number : IsNumber digits) :
    AsksElsewhere message.toList digits message.toList := by
  obtain ⟨begins, ends⟩ := begins_ends_of_error bare
  refine ⟨number, begins, List.suffix_rfl, ?_, alone⟩
  cases bare with
  | error no_output first =>
    -- the message is part of the line, which asks for no output
    intro inside
    obtain ⟨k, starts⟩ := infix_iff_exists_drop.mp (inside.trans ends.isInfix)
    exact no_output k starts

end Directive

namespace Fixture

def numbered (number : Nat) (message : String) : List Char :=
  untagged (toString number).toList message.toList

variable {options : ReadingOptions} {source : String} {number : Nat} {line : List Char}
  {message : String}

theorem mem_testLines_iff : (line, number) ∈ testLines source ↔ 1 ≤ number ∧
    ((sourceLines source.toList).takeWhile fun line => !endsTest line)[number - 1]? =
      some line := by
  rw [testLines_eq, List.mk_mem_zipIdx_iff_le_and_getElem?_sub]

theorem getElem?_of_takeWhile {α : Type} {p : α → Bool} {l : List α} {k : Nat} {a : α}
    (found : (l.takeWhile p)[k]? = some a) : l[k]? = some a := by
  have within := (List.getElem?_eq_some_iff.mp found).1
  obtain ⟨rest, whole⟩ := List.takeWhile_prefix p (l := l)
  rw [← whole, List.getElem?_append_left within, found]

theorem recordLine_numbered (bare : InLine line (.error message))
    (alone : ¬ "// Error".toList <:+: message.toList) (e : Expectations) :
    recordLine options number e (numbered number message) = recordLine options number e line := by
  have asks := asksElsewhere_of_error bare alone (isNumber_toString number)
  have recognised := recognise_untagged asks
  rw [String.ofList_toList, String.ofList_toList] at recognised
  rw [recordLine_of_inLine bare, recordLine, numbered, recognised]
  rfl

theorem recordLines_modify (e : Expectations) {lines : List (List Char × List Char)} {k : Nat}
    {new : List Char}
    (inTest : ((lines.map Prod.fst).takeWhile fun line => !endsTest line)[k]? = some line)
    (goes_on : endsTest new = false)
    (same : ∀ e, recordLine options (number + k) e new = recordLine options (number + k) e line) :
    recordLines options number e ((lines.modify k fun old => (new, old.2)).map Prod.fst) =
      recordLines options number e (lines.map Prod.fst) := by
  induction lines generalizing number e k with
  | nil => cases inTest
  | cons entry lines ih =>
    obtain ⟨first, ending⟩ := entry
    rw [List.map_cons] at inTest
    by_cases ends : endsTest first = true
    · rw [List.takeWhile_cons_of_neg (by simp [ends])] at inTest
      cases inTest
    · have first_goes_on := Bool.not_eq_true _ ▸ ends
      rw [List.takeWhile_cons_of_pos (by simp [first_goes_on])] at inTest
      -- the line in question is this one, or it comes later and this one is as before
      cases k with
      | zero =>
        obtain rfl : first = line := Option.some.inj inTest
        rw [Nat.add_zero] at same
        simp only [List.modify_zero_cons, List.map_cons, recordLines, goes_on, first_goes_on,
          Bool.false_eq_true, if_false, same]
      | succ k =>
        have later : ∀ e, recordLine options (number + 1 + k) e new =
            recordLine options (number + 1 + k) e line := by
          rwa [Nat.add_right_comm]
        simp only [List.modify_succ_cons, List.map_cons, recordLines, first_goes_on,
          Bool.false_eq_true, if_false, ih _ inTest later]

theorem ended_numbered (inTest : (line, number) ∈ testLines source)
    (bare : InLine line (.error message)) :
    Ended ((splitEnds source.toList).modify (number - 1) fun old =>
      (numbered number message, old.2)) := by
  obtain ⟨-, at_⟩ := mem_testLines_iff.mp inTest
  have listed := (List.takeWhile_subset _) (List.mem_of_getElem? at_)
  have isNumber := isNumber_toString number
  obtain ⟨begins, ends⟩ := begins_ends_of_error bare
  refine (ended_splitEnds source.toList).modify ?_ fun old found no_return => ?_
  · exact not_mem_untagged isNumber ends (not_mem_of_mem_sourceLines listed)
  · -- the new line ends like the message, and so like the old line
    have placed : ((splitEnds source.toList).map Prod.fst)[number - 1]? = some old.1 := by
      rw [List.getElem?_map, Option.mem_def.mp found, Option.map_some]
    rw [map_fst_splitEnds, getElem?_of_takeWhile at_] at placed
    have here : line = old.1 := Option.some.inj placed
    rwa [numbered, getLast?_untagged begins ends, here]

/-- A bare error may be given the number of its line, in any line of the test. -/
theorem read_numbered (options : ReadingOptions) (path : String)
    (inTest : (line, number) ∈ testLines source) (bare : InLine line (.error message))
    (alone : ¬ "// Error".toList <:+: message.toList) :
    read options path (String.ofList
        (replaceLine source.toList number (numbered number message))) =
      read options path source := by
  obtain ⟨positive, at_⟩ := mem_testLines_iff.mp inTest
  have goes_on : endsTest line = false := by
    simpa using List.mem_takeWhile_imp (List.mem_of_getElem? at_)
  have whole : source = String.ofList (joinEnds (splitEnds source.toList)) := by
    rw [joinEnds_splitEnds, String.ofList_toList]
  have same : expectations options (String.ofList
        (replaceLine source.toList number (numbered number message))) =
      expectations options source := by
    conv_rhs => rw [whole]
    rw [replaceLine, expectations_joinEnds _ (ended_numbered inTest bare),
      expectations_joinEnds _ (ended_splitEnds source.toList)]
    rw [← map_fst_splitEnds] at at_
    obtain ⟨-, ends⟩ := begins_ends_of_error bare
    refine recordLines_modify {} at_
      (endsTest_untagged (isNumber_toString number) ends goes_on) ?_
    rw [Nat.add_sub_cancel' positive]
    exact recordLine_numbered bare alone
  rw [read, read, same]

/-- A fixture whose second line ends in a return of its own, and asks for an error that the next
line asks for again. -/
def repeated : String :=
  "print 1; // expect: 1\na = // Error: x\r\r\n// [c line 2] Error: x\r\r\n// nontest // Error: y"

theorem read_numbered_repeated :
    ("a = // Error: x\r".toList, 2) ∈ testLines repeated ∧
      InLine "a = // Error: x\r".toList (.error "Error: x\r") ∧
      ¬ "// Error".toList <:+: "Error: x\r".toList ∧
      read ⟨some "c", {}⟩ "two.lox" (String.ofList
          (replaceLine repeated.toList 2 (numbered 2 "Error: x\r"))) =
        read ⟨some "c", {}⟩ "two.lox" repeated := by
  have inTest : ("a = // Error: x\r".toList, 2) ∈ testLines repeated := by decide +kernel
  have bare : InLine "a = // Error: x\r".toList (.error "Error: x\r") :=
    recognise_eq_some_iff.mp (by decide +kernel)
  have alone : ¬ "// Error".toList <:+: "Error: x\r".toList := by decide +kernel
  exact ⟨inTest, bare, alone, read_numbered ⟨some "c", {}⟩ "two.lox" inTest bare alone⟩

end Fixture

end Conformance

import Conformance.Fixture.Load
import Conformance.Verdict
import Conformance.Proofs.Text.Lines
import Mathlib.Logic.Relation

/-! # Line ends

Carriage returns at the ends of lines carry no meaning. A source without any is read the same when
each of its newlines gets one. The text of a process may gain and lose them at every line end, the
unfinished last line included: its pieces stay the same, and every check reads nothing but pieces.
-/

namespace Conformance

namespace Text

def withReturns (text : List Char) : List Char :=
  text.flatMap fun c => if c = '\n' then ['\r', '\n'] else [c]

/-- One carriage return more at the end of a line: before a newline, or after the last line. -/
inductive GainsReturn : List Char → List Char → Prop where
  | beforeNewline (front rest) :
      GainsReturn (front ++ '\n' :: rest) (front ++ '\r' :: '\n' :: rest)
  | atEnd (text) : GainsReturn text (text ++ ['\r'])

/-- Texts that come from each other by adding and deleting carriage returns at ends of lines. -/
def SameLines : List Char → List Char → Prop := Relation.EqvGen GainsReturn

theorem withReturns_cons_newline (text : List Char) :
    withReturns ('\n' :: text) = '\r' :: '\n' :: withReturns text := rfl

theorem withReturns_cons {c : Char} (h : c ≠ '\n') (text : List Char) :
    withReturns (c :: text) = c :: withReturns text := by
  simp [withReturns, h]

/-! ## Sources -/

def returnLines : List (List Char) → List (List Char)
  | [] => []
  | [last] => [last]
  | line :: rest => (line ++ ['\r']) :: returnLines rest

theorem pieces_cons_newline (text : List Char) : pieces ('\n' :: text) = [] :: pieces text := by
  simp [pieces]

theorem pieces_cons {c : Char} {text piece : List Char} {rest : List (List Char)} (h : c ≠ '\n')
    (split : pieces text = piece :: rest) : pieces (c :: text) = (c :: piece) :: rest := by
  simp [pieces, h, split]

theorem returnLines_cons {lines : List (List Char)} (h : lines ≠ []) (line : List Char) :
    returnLines (line :: lines) = (line ++ ['\r']) :: returnLines lines := by
  obtain ⟨next, rest, rfl⟩ := List.exists_cons_of_ne_nil h
  rfl

theorem pieces_withReturns (text : List Char) :
    pieces (withReturns text) = returnLines (pieces text) := by
  induction text with
  | nil => rfl
  | cons c text ih =>
    by_cases newline : c = '\n'
    · subst newline
      rw [withReturns_cons_newline, pieces_cons_newline, returnLines_cons (pieces_ne_nil text),
        ← ih]
      exact pieces_cons (by decide) (pieces_cons_newline _)
    · obtain ⟨piece, rest, split⟩ := List.exists_cons_of_ne_nil (pieces_ne_nil text)
      rw [withReturns_cons newline, pieces_cons newline split]
      rw [split] at ih
      cases rest with
      | nil => exact pieces_cons newline ih
      | cons next rest => exact pieces_cons newline ih

theorem closeLines_cons {lines : List (List Char)} (h : lines ≠ []) (line : List Char) :
    closeLines (line :: lines) = dropReturn line :: closeLines lines := by
  obtain ⟨next, rest, rfl⟩ := List.exists_cons_of_ne_nil h
  simp [closeLines]

theorem dropReturn_append (line : List Char) : dropReturn (line ++ ['\r']) = line := by
  simp [dropReturn]

theorem dropReturn_eq_self {line : List Char} (h : '\r' ∉ line) : dropReturn line = line := by
  unfold dropReturn
  split
  · next last => exact absurd (List.mem_of_getLast? last) h
  · rfl

theorem closeLines_returnLines {lines : List (List Char)} (h : ∀ line ∈ lines, '\r' ∉ line) :
    closeLines (returnLines lines) = closeLines lines := by
  induction lines with
  | nil => rfl
  | cons line lines ih =>
    cases lines with
    | nil => rfl
    | cons next rest =>
      have tail : returnLines (next :: rest) ≠ [] := by
        cases rest <;> simp [returnLines]
      rw [returnLines_cons (List.cons_ne_nil _ _), closeLines_cons tail,
        closeLines_cons (List.cons_ne_nil _ _), dropReturn_append,
        dropReturn_eq_self (h line List.mem_cons_self),
        ih fun other mem => h other (List.mem_cons_of_mem _ mem)]

theorem mem_of_mem_pieces {text piece : List Char} {c : Char} (h : piece ∈ pieces text)
    (mem : c ∈ piece) : c ∈ text := by
  induction text generalizing piece with
  | nil =>
    obtain rfl : piece = [] := by simpa [pieces] using h
    exact mem
  | cons first text ih =>
    by_cases newline : first = '\n'
    · rw [newline, pieces_cons_newline, List.mem_cons] at h
      rcases h with rfl | h
      · cases mem
      · exact List.mem_cons_of_mem _ (ih h mem)
    · obtain ⟨head, rest, split⟩ := List.exists_cons_of_ne_nil (pieces_ne_nil text)
      rw [pieces_cons newline split, List.mem_cons] at h
      rw [split] at ih
      rcases h with rfl | h
      · rcases List.mem_cons.mp mem with rfl | mem
        · exact List.mem_cons_self
        · exact List.mem_cons_of_mem _ (ih List.mem_cons_self mem)
      · exact List.mem_cons_of_mem _ (ih (List.mem_cons_of_mem _ h) mem)

theorem sourceLines_withReturns {text : List Char} (h : '\r' ∉ text) :
    sourceLines (withReturns text) = sourceLines text := by
  unfold sourceLines
  rw [pieces_withReturns]
  exact closeLines_returnLines fun piece mem inside => h (mem_of_mem_pieces mem inside)

/-! ## Process output -/

/-- A line whose other characters are trimmed away is trimmed itself; otherwise its first character
stays. -/
theorem trimReturns_cons (c : Char) (line : List Char) :
    trimReturns (c :: line) =
      if trimReturns line = [] then trimReturns [c] else c :: trimReturns line := by
  simp only [trimReturns, List.reverse_cons, List.dropWhile_append, List.reverse_eq_nil_iff,
    List.isEmpty_iff]
  split <;> simp

theorem pieces_append_newline (front rest : List Char) :
    pieces (front ++ '\n' :: rest) = pieces front ++ pieces rest := by
  induction front with
  | nil => simp [pieces]
  | cons c front ih =>
    by_cases newline : c = '\n'
    · rw [newline, List.cons_append, pieces_cons_newline, pieces_cons_newline, ih,
        List.cons_append]
    · obtain ⟨piece, others, split⟩ := List.exists_cons_of_ne_nil (pieces_ne_nil front)
      rw [split, List.cons_append] at ih
      rw [List.cons_append, pieces_cons newline ih, pieces_cons newline split, List.cons_append]

theorem outputPieces_append_newline (front rest : List Char) :
    outputPieces (front ++ '\n' :: rest) = outputPieces front ++ outputPieces rest := by
  rw [outputPieces, pieces_append_newline, List.map_append]
  rfl

theorem outputPieces_append_return (text : List Char) :
    outputPieces (text ++ ['\r']) = outputPieces text := by
  induction text with
  | nil => decide
  | cons c text ih =>
    unfold outputPieces at ih ⊢
    by_cases newline : c = '\n'
    · rw [newline, List.cons_append, pieces_cons_newline, pieces_cons_newline, List.map_cons,
        List.map_cons, ih]
    · obtain ⟨piece, rest, split⟩ := List.exists_cons_of_ne_nil (pieces_ne_nil text)
      obtain ⟨piece', rest', split'⟩ :=
        List.exists_cons_of_ne_nil (pieces_ne_nil (text ++ ['\r']))
      rw [split, split', List.map_cons, List.map_cons, List.cons.injEq] at ih
      rw [List.cons_append, pieces_cons newline split, pieces_cons newline split', List.map_cons,
        List.map_cons, trimReturns_cons c piece, trimReturns_cons c piece', ih.1, ih.2]

theorem outputPieces_of_gainsReturn {text text' : List Char} (h : GainsReturn text text') :
    outputPieces text = outputPieces text' := by
  cases h with
  | beforeNewline front rest =>
    rw [List.append_cons front '\r', outputPieces_append_newline, outputPieces_append_newline,
      outputPieces_append_return]
  | atEnd => exact (outputPieces_append_return text).symm

theorem SameLines.outputPieces_eq {text text' : List Char} (h : SameLines text text') :
    outputPieces text = outputPieces text' := by
  induction h with
  | rel _ _ gains => exact outputPieces_of_gainsReturn gains
  | refl => rfl
  | symm _ _ _ ih => exact ih.symm
  | trans _ _ _ _ _ first second => exact first.trans second

theorem GainsReturn.cons {text text' : List Char} (c : Char) (h : GainsReturn text text') :
    GainsReturn (c :: text) (c :: text') := by
  cases h with
  | beforeNewline front rest => exact .beforeNewline (c :: front) rest
  | atEnd => exact .atEnd (c :: text)

theorem SameLines.cons {text text' : List Char} (c : Char) (h : SameLines text text') :
    SameLines (c :: text) (c :: text') := by
  induction h with
  | rel _ _ gains => exact .rel _ _ (gains.cons c)
  | refl => exact .refl _
  | symm _ _ _ ih => exact .symm _ _ ih
  | trans _ _ _ _ _ first second => exact .trans _ _ _ first second

theorem sameLines_withReturns (text : List Char) : SameLines text (withReturns text) := by
  induction text with
  | nil => exact .refl _
  | cons c text ih =>
    by_cases newline : c = '\n'
    · subst newline
      have gains : GainsReturn ('\n' :: text) ('\r' :: '\n' :: text) := .beforeNewline [] text
      exact .trans _ _ _ (.rel _ _ gains) ((ih.cons '\n').cons '\r')
    · rw [withReturns_cons newline]
      exact ih.cons c

end Text

open Text

def crlf (text : String) : String := String.ofList (withReturns text.toList)

namespace Output

def withReturns (o : Output) : Output :=
  { o with stdout := crlf o.stdout, stderr := crlf o.stderr }

structure SameLines (o o' : Output) : Prop where
  stdout : Text.SameLines o.stdout.toList o'.stdout.toList
  stderr : Text.SameLines o.stderr.toList o'.stderr.toList
  exitCode : o.exitCode = o'.exitCode

theorem sameLines_withReturns (o : Output) : o.SameLines o.withReturns := by
  constructor
  · simpa [withReturns, crlf] using Text.sameLines_withReturns o.stdout.toList
  · simpa [withReturns, crlf] using Text.sameLines_withReturns o.stderr.toList
  · rfl

end Output

/-- A verdict depends on the pieces of the output. -/
theorem Expectations.judge_of_sameLines (e : Expectations) {o o' : Output} (h : o.SameLines o') :
    e.judge o = e.judge o' := by
  have answers : e.judge? o = e.judge? o' := by
    simp only [judge?, h.stdout.outputPieces_eq, h.stderr.outputPieces_eq, h.exitCode]
  simp only [judge, answers]

theorem Fixture.expectations_crlf (options : ReadingOptions) {source : String}
    (h : '\r' ∉ source.toList) :
    expectations options (crlf source) = expectations options source := by
  rw [expectations, crlf, String.toList_ofList, sourceLines_withReturns h]
  rfl

/-- The line ends of a source never change what a fixture expects, and those of an output never
change how it is judged, whatever is expected. -/
theorem Fixture.line_ends_irrelevant (options : ReadingOptions) (path : String) {source : String}
    (no_return : '\r' ∉ source.toList) :
    read options path (crlf source) = read options path source ∧
      ∀ (e : Expectations) (o o' : Output),
        e.judge o.withReturns = e.judge o ∧ (o.SameLines o' → e.judge o' = e.judge o) := by
  constructor
  · rw [read, expectations_crlf options no_return]
    rfl
  · intro e o o'
    constructor
    · exact (e.judge_of_sameLines o.sameLines_withReturns).symm
    · intro same
      exact (e.judge_of_sameLines same).symm

/-- A last line without newline may have a carriage return too. -/
theorem Fixture.line_ends_irrelevant_unfinished :
    read {} "one.lox" (crlf "print 1; // expect: 1\nprint 2;") =
        .ok { output := [⟨1, "1"⟩], count := 1 } ∧
      ({ output := [⟨1, "1"⟩], count := 1 } : Expectations).judge { stdout := "1\r\n2\r" } =
        [{ message := "Got output '2' when none was expected" }] := by
  have no_return : '\r' ∉ "print 1; // expect: 1\nprint 2;".toList := by decide
  have same : Output.SameLines { stdout := "1\n2" } { stdout := "1\r\n2\r" } := by
    have inner : GainsReturn "1\n2".toList "1\r\n2".toList := .beforeNewline ['1'] ['2']
    have last : GainsReturn "1\r\n2".toList "1\r\n2\r".toList := .atEnd _
    exact ⟨.trans _ _ _ (.rel _ _ inner) (.rel _ _ last), .refl _, rfl⟩
  obtain ⟨source, outputs⟩ := Fixture.line_ends_irrelevant {} "one.lox" no_return
  constructor
  · rw [source]
    rfl
  · rw [(outputs _ _ _).2 same]
    rfl

end Conformance

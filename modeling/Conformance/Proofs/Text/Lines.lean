import Conformance.Text.Lines
import Mathlib.Data.List.DropRight
import Mathlib.Data.List.Infix

/-! # Lines of sources and of outputs

The pieces of a text are those of `List.splitOn`. No line holds a newline, no line of an output
ends in a carriage return, and lines like that are read back from the text that they make up.
-/

namespace Conformance.Text

theorem pieces_eq_splitOn (text : List Char) : pieces text = text.splitOn '\n' := by
  induction text with
  | nil => rfl
  | cons c cs ih =>
    rw [pieces, List.splitOn_eq_splitOnP, List.splitOnP_cons_eq_if_modifyHead,
      ← List.splitOn_eq_splitOnP, ← ih]
    by_cases newline : c = '\n'
    · simp [newline]
    · obtain ⟨piece, rest, split⟩ := List.exists_cons_of_ne_nil (pieces_ne_nil cs)
      simp [newline, split]

theorem not_mem_of_mem_pieces {text piece : List Char} (h : piece ∈ pieces text) :
    '\n' ∉ piece := by
  induction text generalizing piece with
  | nil =>
    obtain rfl : piece = [] := by simpa [pieces] using h
    simp
  | cons c cs ih =>
    obtain ⟨first, rest, split⟩ := List.exists_cons_of_ne_nil (pieces_ne_nil cs)
    rw [split] at ih
    unfold pieces at h
    rw [split] at h
    by_cases newline : c = '\n'
    · simp only [newline, if_true, List.mem_cons] at h
      rcases h with rfl | h
      · simp
      · exact ih (by simpa using h)
    · simp only [newline, if_false, List.mem_cons] at h
      rcases h with rfl | h
      · simpa [Ne.symm newline] using ih List.mem_cons_self
      · exact ih (List.mem_cons_of_mem _ h)

theorem length_pieces (text : List Char) : (pieces text).length = text.count '\n' + 1 := by
  induction text with
  | nil => rfl
  | cons c cs ih =>
    obtain ⟨first, rest, split⟩ := List.exists_cons_of_ne_nil (pieces_ne_nil cs)
    rw [split] at ih
    unfold pieces
    rw [split]
    by_cases newline : c = '\n'
    · simp [newline, ← ih]
    · simpa [newline] using ih

theorem length_outputPieces (text : List Char) :
    (outputPieces text).length = text.count '\n' + 1 := by
  rw [outputPieces, List.length_map, length_pieces]

theorem trimReturns_eq_rdropWhile (line : List Char) :
    trimReturns line = line.rdropWhile (· = '\r') := rfl

theorem getLast?_trimReturns (line : List Char) : (trimReturns line).getLast? ≠ some '\r' := by
  rw [trimReturns_eq_rdropWhile]
  intro h
  have ne : line.rdropWhile (· = '\r') ≠ [] := by
    intro nil
    simp [nil] at h
  rw [List.getLast?_eq_some_getLast ne] at h
  have := List.rdropWhile_last_not (· = '\r') line ne
  simp [Option.some.inj h] at this

theorem trimReturns_eq_self {line : List Char} (h : line.getLast? ≠ some '\r') :
    trimReturns line = line := by
  rw [trimReturns_eq_rdropWhile, List.rdropWhile_eq_self_iff]
  intro ne last
  apply h
  rw [List.getLast?_eq_some_getLast ne]
  simpa using last

theorem trimReturns_isPrefix (line : List Char) : trimReturns line <+: line := by
  rw [trimReturns_eq_rdropWhile]
  exact List.rdropWhile_prefix _ _

/-- A line that a process can print. -/
structure IsOutputLine (line : List Char) : Prop where
  no_newline : '\n' ∉ line
  no_return : line.getLast? ≠ some '\r'

theorem isOutputLine_of_mem_outputPieces {text line : List Char} (h : line ∈ outputPieces text) :
    IsOutputLine line := by
  obtain ⟨piece, mem, rfl⟩ := List.mem_map.mp h
  constructor
  · intro newline
    exact not_mem_of_mem_pieces mem ((trimReturns_isPrefix piece).subset newline)
  · exact getLast?_trimReturns piece

theorem mem_of_mem_dropBlankTail {lines : List (List Char)} {line : List Char}
    (h : line ∈ dropBlankTail lines) : line ∈ lines := by
  unfold dropBlankTail at h
  split at h
  · exact List.mem_of_mem_dropLast h
  · exact h

theorem isOutputLine_of_mem_outputLines {text line : List Char} (h : line ∈ outputLines text) :
    IsOutputLine line :=
  isOutputLine_of_mem_outputPieces (mem_of_mem_dropBlankTail h)

def unlines (lines : List (List Char)) : List Char := lines.flatMap (· ++ ['\n'])

theorem unlines_append (lines others : List (List Char)) :
    unlines (lines ++ others) = unlines lines ++ unlines others := List.flatMap_append

theorem unlines_cons (line : List Char) (lines : List (List Char)) :
    unlines (line :: lines) = line ++ '\n' :: unlines lines := by
  rw [unlines, List.flatMap_cons, List.append_assoc, List.singleton_append, unlines]

theorem unlines_pieces (text : List Char) : unlines (pieces text) = text ++ ['\n'] := by
  induction text with
  | nil => rfl
  | cons c cs ih =>
    obtain ⟨first, rest, split⟩ := List.exists_cons_of_ne_nil (pieces_ne_nil cs)
    rw [split, unlines_cons] at ih
    unfold pieces
    rw [split]
    by_cases newline : c = '\n'
    · simp only [newline, if_true]
      rw [unlines_cons, unlines_cons, ih]
      rfl
    · simp only [newline, if_false]
      rw [unlines_cons, List.cons_append, ih]
      rfl

theorem pieces_unlines_append {lines : List (List Char)} (h : ∀ line ∈ lines, '\n' ∉ line)
    (text : List Char) : pieces (unlines lines ++ text) = lines ++ pieces text := by
  induction lines with
  | nil => rfl
  | cons line lines ih =>
    have rest := ih fun other mem => h other (List.mem_cons_of_mem _ mem)
    rw [pieces_eq_splitOn, List.splitOn_eq_splitOnP] at rest ⊢
    rw [unlines_cons, List.append_assoc, List.cons_append,
      List.splitOnP_append_cons_of_forall_mem _ '\n' (by simp), rest, List.cons_append]
    intro c mem
    have := h line List.mem_cons_self
    simp only [beq_eq_false_iff_ne, ne_eq]
    rintro rfl
    exact this mem

theorem pieces_unlines {lines : List (List Char)} (h : ∀ line ∈ lines, '\n' ∉ line) :
    pieces (unlines lines) = lines ++ [[]] := by
  have := pieces_unlines_append h []
  rwa [List.append_nil] at this

/-- What a process prints line by line is read line by line. -/
theorem outputLines_unlines {lines : List (List Char)} (h : ∀ line ∈ lines, IsOutputLine line) :
    outputLines (unlines lines) = lines := by
  have kept : lines.map trimReturns = lines := by
    rw [List.map_congr_left fun line mem => trimReturns_eq_self (h line mem).no_return]
    exact List.map_id' lines
  rw [outputLines, outputPieces, pieces_unlines fun line mem => (h line mem).no_newline,
    List.map_append, kept]
  simp [dropBlankTail, trimReturns]

theorem not_mem_of_mem_closeLines {lines : List (List Char)} {line : List Char} {c : Char}
    (h : ∀ piece ∈ lines, c ∉ piece) (mem : line ∈ closeLines lines) : c ∉ line := by
  induction lines with
  | nil => simp [closeLines] at mem
  | cons piece rest ih =>
    cases rest with
    | nil =>
      unfold closeLines at mem
      split at mem
      · simp at mem
      · obtain rfl : line = piece := by simpa using mem
        exact h line List.mem_cons_self
    | cons next rest =>
      rw [closeLines, List.mem_cons] at mem
      · rcases mem with rfl | mem
        · intro inside
          apply h piece List.mem_cons_self
          unfold dropReturn at inside
          split at inside
          · exact List.mem_of_mem_dropLast inside
          · exact inside
        · exact ih (fun p hp => h p (List.mem_cons_of_mem _ hp)) mem
      · simp

theorem not_mem_of_mem_sourceLines {text line : List Char} (h : line ∈ sourceLines text) :
    '\n' ∉ line :=
  not_mem_of_mem_closeLines (fun _ mem => not_mem_of_mem_pieces mem) h

end Conformance.Text

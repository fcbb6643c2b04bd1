/-! # Lines of a text

Two ways to cut a text into lines. Fixture sources end a line at a newline, with at most one
carriage return before it. Process output drops every carriage return at the end of a line.
-/

namespace Conformance.Text

/-- The pieces between newlines; a text without newline is one piece. -/
def pieces : List Char → List (List Char)
  | [] => [[]]
  | c :: cs =>
    if c = '\n' then [] :: pieces cs
    else match pieces cs with
      | [] => [[c]]
      | piece :: rest => (c :: piece) :: rest

/-- A line without the carriage return of its line end. -/
def dropReturn (line : List Char) : List Char :=
  if line.getLast? = some '\r' then line.dropLast else line

def trimReturns (line : List Char) : List Char :=
  (line.reverse.dropWhile (· = '\r')).reverse

/-- Turns pieces into source lines: each piece but the last lost a line end, and a last piece
without characters is no line. -/
def closeLines : List (List Char) → List (List Char)
  | [] => []
  | [last] => if last = [] then [] else [last]
  | piece :: rest => dropReturn piece :: closeLines rest

def sourceLines (text : List Char) : List (List Char) :=
  closeLines (pieces text)

def outputPieces (text : List Char) : List (List Char) :=
  (pieces text).map trimReturns

def dropBlankTail (lines : List (List Char)) : List (List Char) :=
  if lines.getLast? = some [] then lines.dropLast else lines

def outputLines (text : List Char) : List (List Char) :=
  dropBlankTail (outputPieces text)

theorem pieces_ne_nil (text : List Char) : pieces text ≠ [] := by
  cases text with
  | nil => simp [pieces]
  | cons c cs =>
    unfold pieces
    split
    · simp
    · split <;> simp

theorem length_dropBlankTail (lines : List (List Char)) :
    lines.length ≤ (dropBlankTail lines).length + 1 := by
  unfold dropBlankTail
  split
  · rw [List.length_dropLast]
    omega
  · omega

end Conformance.Text

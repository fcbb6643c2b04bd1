import Conformance.Proofs.Report.Lines

/-! # Colours

Colours only decorate a report: without its escape sequences the report for a terminal is the one
without colour. A colour never goes over a line. Each coloured segment ends with a reset and holds
no newline, so at the end of a line the last escape sequence is a reset.
-/

namespace Conformance

open Conformance.Text

/-! ## Escape sequences -/

namespace Terminal

/-- A character that is shown, or an escape sequence with what stands between its bracket and its
final letter. -/
inductive Token where
  | shown (c : Char)
  | escape (parameter : List Char)
deriving DecidableEq

def Token.shown? : Token → Option Char
  | .shown c => some c
  | .escape _ => none

def Token.parameter? : Token → Option (List Char)
  | .shown _ => none
  | .escape parameter => some parameter

/-- The parameter of an escape sequence at the front, and what follows the sequence. -/
def escapeAt (text : List Char) : Option (List Char × List Char) := do
  let rest ← after? "\x1b[".toList text
  let _ :: behind := rest.dropWhile (· ≠ 'm') | none
  some (rest.takeWhile (· ≠ 'm'), behind)

variable {text parameter rest : List Char} {c : Char}

theorem escapeAt_eq_some_iff : escapeAt text = some (parameter, rest) ↔
    text = "\x1b[".toList ++ (parameter ++ 'm' :: rest) ∧ 'm' ∉ parameter := by
  constructor
  · intro found
    obtain ⟨inside, opened, closed⟩ := Option.bind_eq_some_iff.mp found
    obtain rfl := after?_eq_some_iff.mp opened
    split at closed
    · next last behind dropped =>
      obtain ⟨rfl, rfl⟩ := Prod.mk.inj (Option.some.inj closed)
      have letter : last = 'm' := by
        have stops := List.head?_dropWhile_not (· ≠ 'm') inside
        rw [dropped] at stops
        simpa using stops
      have whole := List.takeWhile_append_dropWhile (p := (· ≠ 'm')) (l := inside)
      rw [dropped, letter] at whole
      refine ⟨congrArg _ whole.symm, fun among => ?_⟩
      simpa using List.mem_takeWhile_imp among
    · cases closed
  · rintro ⟨rfl, unended⟩
    rw [escapeAt, after?_append, Option.bind_eq_bind, Option.bind_some,
      takeWhile_ne_append unended, dropWhile_ne_append unended]

theorem escapeAt_of_ne (other : c ≠ '\x1b') (rest : List Char) : escapeAt (c :: rest) = none := by
  simp [escapeAt, after?, Ne.symm other]

def tokens : List Char → List Token
  | [] => []
  | c :: rest =>
    match _found : escapeAt (c :: rest) with
    | some (parameter, behind) => .escape parameter :: tokens behind
    | none => .shown c :: tokens rest
termination_by text => text.length
decreasing_by
  · obtain ⟨text, -⟩ := escapeAt_eq_some_iff.mp ‹_›
    simp [text]
    omega
  · simp

theorem tokens_cons (other : c ≠ '\x1b') (rest : List Char) :
    tokens (c :: rest) = .shown c :: tokens rest := by
  rw [tokens, escapeAt_of_ne other]

theorem tokens_escape {parameter : String} (unended : 'm' ∉ parameter.toList) (rest : List Char) :
    tokens ((Segment.escape parameter).toList ++ rest) =
      .escape parameter.toList :: tokens rest := by
  have sequence : (Segment.escape parameter).toList ++ rest =
      '\x1b' :: '[' :: (parameter.toList ++ 'm' :: rest) := by
    simp [Segment.escape]
  have found : escapeAt ('\x1b' :: '[' :: (parameter.toList ++ 'm' :: rest)) =
      some (parameter.toList, rest) := escapeAt_eq_some_iff.mpr ⟨rfl, unended⟩
  rw [sequence, tokens, found]

theorem tokens_append (plain : '\x1b' ∉ text) (rest : List Char) :
    tokens (text ++ rest) = text.map .shown ++ tokens rest := by
  induction text with
  | nil => rfl
  | cons c text ih =>
    rw [List.mem_cons, not_or] at plain
    rw [List.cons_append, tokens_cons (Ne.symm plain.1), ih plain.2]
    rfl

/-- What is shown of a text: the text without its escape sequences. -/
def shownOf (text : List Char) : List Char := (tokens text).filterMap Token.shown?

def lastEscape? (text : List Char) : Option (List Char) :=
  ((tokens text).filterMap Token.parameter?).getLast?

theorem lastEscape?_append (apart : tokens (text ++ rest) = tokens text ++ tokens rest) :
    lastEscape? (text ++ rest) = (lastEscape? rest).or (lastEscape? text) := by
  rw [lastEscape?, apart, List.filterMap_append, List.getLast?_append]
  rfl

end Terminal

open Conformance.Terminal

/-! ## Decorated texts -/

/-- A text for a terminal that shows a plain one. It is read by itself, whatever follows it, and at
its end and in front of its newlines its last escape sequence is a reset. -/
structure Decorates (ansi plain : List Char) : Prop where
  apart : ∀ rest, tokens (ansi ++ rest) = tokens ansi ++ tokens rest
  shown : shownOf ansi = plain
  reset : ∀ front back, ansi = front ++ back → (∀ c ∈ back.head?, c = '\n') →
    ∀ parameter ∈ lastEscape? front, parameter = ['0']

namespace Decorates

variable {ansi plain more shown : List Char}

theorem append (h : Decorates ansi plain) (k : Decorates more shown) :
    Decorates (ansi ++ more) (plain ++ shown) where
  apart rest := by rw [List.append_assoc, h.apart, k.apart, h.apart, List.append_assoc]
  shown := by rw [shownOf, h.apart, List.filterMap_append, ← h.shown, ← k.shown]; rfl
  reset := by
    intro front back split ends parameter last
    rcases List.append_eq_append_iff.mp split with ⟨middle, rfl, rfl⟩ | ⟨middle, rfl, rfl⟩
    · rw [lastEscape?_append (h.apart middle)] at last
      rcases Option.or_eq_some_iff.mp last with inside | ⟨-, before⟩
      · exact k.reset middle back rfl ends parameter inside
      · exact h.reset ansi [] (List.append_nil ansi).symm nofun parameter before
    · refine h.reset front middle rfl (fun c first => ends c ?_) parameter last
      rw [List.head?_append, Option.mem_def.mp first]
      rfl

/-- A text without escape sequences shows itself. -/
theorem of_not_mem (plain : '\x1b' ∉ ansi) : Decorates ansi ansi := by
  have read {text : List Char} (plain : '\x1b' ∉ text) : tokens text = text.map .shown := by
    have whole := tokens_append plain []
    rwa [List.append_nil, tokens, List.append_nil] at whole
  refine ⟨fun rest => ?_, ?_, ?_⟩
  · rw [tokens_append plain, read plain]
  · rw [shownOf, read plain, List.filterMap_map]
    exact List.filterMap_some
  · rintro front back rfl ends parameter last
    rw [List.mem_append, not_or] at plain
    rw [lastEscape?, read plain.1, List.filterMap_map] at last
    simp [Function.comp_def, Token.parameter?] at last

end Decorates

/-! ## Segments -/

namespace Segment

def IsClean : Segment → Prop
  | .plain text => '\x1b' ∉ text.toList
  | .colored _ text => '\x1b' ∉ text.toList ∧ IsOneLine text

instance : DecidablePred IsClean
  | .plain text => inferInstanceAs (Decidable ('\x1b' ∉ text.toList))
  | .colored _ text => inferInstanceAs (Decidable ('\x1b' ∉ text.toList ∧ IsOneLine text))

theorem isClean_number (color : Color) (n : Nat) : (colored color (toString n)).IsClean :=
  ⟨(isNumber_toString n).not_mem (by decide), isOneLine_toString n⟩

def AreClean (segments : List Segment) : Prop := ∀ segment ∈ segments, segment.IsClean

theorem areClean_nil : AreClean [] := List.forall_mem_nil _

theorem areClean_cons {segment : Segment} {segments : List Segment} :
    AreClean (segment :: segments) ↔ segment.IsClean ∧ AreClean segments := List.forall_mem_cons

theorem areClean_append {front back : List Segment} :
    AreClean (front ++ back) ↔ AreClean front ∧ AreClean back := List.forall_mem_append

theorem areClean_flatMap {α : Type} {items : List α} {f : α → List Segment} :
    AreClean (items.flatMap f) ↔ ∀ item ∈ items, AreClean (f item) := List.forall_mem_flatMap

theorem tokens_colored (color : Color) {text : String} (plain : '\x1b' ∉ text.toList)
    (rest : List Char) : tokens ((colored color text).ansi.toList ++ rest) =
      .escape ['0'] :: .escape color.digits.toList ::
        (text.toList.map .shown ++ .escape ['0'] :: tokens rest) := by
  have digits : 'm' ∉ color.digits.toList := by cases color <;> decide
  have zero : 'm' ∉ "0".toList := by decide
  simp only [ansi, reset, String.toList_append, List.append_assoc, tokens_escape zero,
    tokens_escape digits, tokens_append plain]
  rfl

theorem newline_not_mem_colored (color : Color) {text : String} (one : IsOneLine text) :
    '\n' ∉ (colored color text).ansi.toList := by
  have sequence : IsOneLine (escape color.digits) := by cases color <;> decide
  have zero : IsOneLine reset := by decide
  exact ((zero.append sequence).append one).append zero

theorem decorates_colored (color : Color) {text : String} (plain : '\x1b' ∉ text.toList)
    (one : IsOneLine text) : Decorates (colored color text).ansi.toList text.toList := by
  have read := tokens_colored color plain []
  rw [List.append_nil, tokens] at read
  refine ⟨fun rest => ?_, ?_, ?_⟩
  · rw [tokens_colored color plain, read]
    simp
  · rw [shownOf, read]
    simp [List.filterMap_cons, Token.shown?, List.filterMap_map, Function.comp_def]
  · intro front back split ends parameter last
    have all : back = [] := by
      rcases back with _ | ⟨c, back⟩
      · rfl
      · obtain rfl := ends c rfl
        have among : '\n' ∈ (colored color text).ansi.toList := by simp [split]
        exact absurd among (newline_not_mem_colored color one)
    rw [all, List.append_nil] at split
    rw [← split, lastEscape?, read] at last
    simpa [List.filterMap_cons, Token.parameter?, List.filterMap_map, Function.comp_def, eq_comm]
      using last

theorem IsClean.decorates {segment : Segment} (h : segment.IsClean) :
    Decorates segment.ansi.toList segment.text.toList := by
  cases segment with
  | plain text => exact .of_not_mem h
  | colored color text => exact decorates_colored color h.1 h.2

def ansiOf (segments : List Segment) : List Char :=
  segments.flatMap fun segment => segment.ansi.toList

theorem AreClean.decorates {segments : List Segment} (h : AreClean segments) :
    Decorates (ansiOf segments) (textOf segments) := by
  induction segments with
  | nil => exact .of_not_mem List.not_mem_nil
  | cons segment segments ih =>
    obtain ⟨first, others⟩ := areClean_cons.mp h
    exact first.decorates.append (ih others)

end Segment

/-! ## Reports -/

def Outcome.strings : Outcome → List String
  | .passed => []
  | .failed failures => failures.flatMap Failure.lines
  | .error kind message => [kind, message]
  | .skipped reason => [reason]

def FixtureReport.strings (f : FixtureReport) : List String := f.path :: f.outcome.strings

def SuiteReport.strings (s : SuiteReport) : List String :=
  s.name :: s.fixtures.flatMap FixtureReport.strings

/-- All texts of a report: names, paths, and what is told of fixtures. -/
def RunReport.strings (r : RunReport) : List String := r.suites.flatMap SuiteReport.strings

def IsBare (text : String) : Prop := '\x1b' ∉ text.toList ∧ IsOneLine text

instance : DecidablePred IsBare := fun text =>
  inferInstanceAs (Decidable ('\x1b' ∉ text.toList ∧ IsOneLine text))

open Segment

theorem Tally.areClean_segments (t : Tally) : AreClean t.segments := by
  have counted {text : String} (plain : '\x1b' ∉ text.toList) (color : Color) (n : Nat) :
      AreClean [.plain ", ", .colored color (toString n), .plain text] := by
    simp only [areClean_cons, areClean_nil, and_true]
    exact ⟨by decide, isClean_number color n, plain⟩
  simp only [segments, areClean_append, areClean_cons, areClean_nil, and_true]
  refine ⟨⟨⟨⟨isClean_number _ _, by decide, isClean_number _ _, by decide⟩, ?_⟩, ?_⟩, by decide⟩
  · split
    · exact counted (by decide) .magenta t.errored
    · exact areClean_nil
  · split
    · exact counted (by decide) .yellow t.skipped
    · exact areClean_nil

theorem FixtureReport.areClean_segments {f : FixtureReport} (bare : ∀ text ∈ f.strings, IsBare text)
    (showPassed : Bool) : AreClean (f.segments showPassed) := by
  obtain ⟨path, outcome⟩ := f
  obtain ⟨⟨plain, -⟩, others⟩ := List.forall_mem_cons.mp bare
  have headline : IsClean (.plain (": " ++ path ++ "\n")) := by simp [IsClean, plain]
  cases outcome with
  | passed =>
    simp only [segments]
    split
    · simp only [areClean_cons, areClean_nil, and_true]
      exact ⟨by decide, headline⟩
    · exact areClean_nil
  | failed failures =>
    simp only [segments, areClean_append, areClean_flatMap, areClean_cons, areClean_nil, and_true]
    refine ⟨⟨⟨by decide, headline⟩, ?_⟩, by decide⟩
    intro line told
    obtain ⟨line_plain, one⟩ := others line told
    exact ⟨⟨by simp [line_plain], .append (by decide) one⟩, by decide⟩
  | error kind message =>
    have kind_plain : '\x1b' ∉ kind.toList := (others kind (by simp [Outcome.strings])).1
    have message_plain : '\x1b' ∉ message.toList := (others message (by simp [Outcome.strings])).1
    simp only [segments, areClean_cons, areClean_nil, and_true]
    refine ⟨by decide, headline, ?_, by decide⟩
    simp [IsClean, kind_plain, message_plain]
  | skipped reason =>
    have reason_plain : '\x1b' ∉ reason.toList := (others reason List.mem_cons_self).1
    simp only [segments]
    split
    · simp only [areClean_cons, areClean_nil, and_true]
      refine ⟨by decide, ?_⟩
      simp [IsClean, plain, reason_plain]
    · exact areClean_nil

theorem SuiteReport.areClean_segments {s : SuiteReport} (bare : ∀ text ∈ s.strings, IsBare text)
    (showPassed : Bool) : AreClean (s.segments showPassed) := by
  obtain ⟨⟨plain, -⟩, others⟩ := List.forall_mem_cons.mp bare
  rw [List.forall_mem_flatMap] at others
  simp only [segments, areClean_append, areClean_cons, areClean_flatMap]
  refine ⟨⟨?_, ?_⟩, ?_⟩
  · simp [IsClean, plain]
  · intro f listed
    exact f.areClean_segments (others f listed) showPassed
  · unfold summary
    split
    · simp only [areClean_cons, areClean_nil, and_true]
      exact ⟨by decide, isClean_number _ _, by decide⟩
    · exact s.tally.areClean_segments

theorem RunReport.areClean_segments {r : RunReport} (bare : ∀ text ∈ r.strings, IsBare text)
    (showPassed : Bool) : AreClean (r.segments showPassed) := by
  rw [strings, List.forall_mem_flatMap] at bare
  simp only [segments, areClean_append, areClean_flatMap]
  constructor
  · intro s listed
    exact s.areClean_segments (bare s listed) showPassed
  · split
    · simp only [areClean_cons]
      exact ⟨by decide, by decide, r.totals.areClean_segments⟩
    · exact areClean_nil

theorem RunReport.toList_ansi (showPassed : Bool) (r : RunReport) :
    (r.ansi showPassed).toList = ansiOf (r.segments showPassed) := by
  rw [ansi, String.toList_join, List.flatMap_map, ansiOf]

/-- Colour only decorates: what a terminal shows of a report is the report without colour, and at
the end of every line, and of the report, the last escape sequence is a reset. -/
theorem RunReport.ansi_decorates {r : RunReport} (bare : ∀ text ∈ r.strings, IsBare text)
    (showPassed : Bool) :
    String.ofList (shownOf (r.ansi showPassed).toList) = r.text showPassed ∧
      ∀ front back, (r.ansi showPassed).toList = front ++ back → (∀ c ∈ back.head?, c = '\n') →
        ∀ parameter ∈ lastEscape? front, parameter = ['0'] := by
  have decorated := (r.areClean_segments bare showPassed).decorates
  rw [← toList_ansi, ← toList_text] at decorated
  refine ⟨?_, decorated.reset⟩
  rw [decorated.shown, String.ofList_toList]

theorem RunReport.ansi_decorates_mixed :
    let failed : FixtureReport := ⟨"a.lox", .failed [{ message := "[0m", context := ["31m", ""] }]⟩
    let broken : FixtureReport := ⟨"b.lox", .error "fixture_read" "no such file"⟩
    let skipped : FixtureReport := ⟨"c.lox", .skipped "benchmark"⟩
    let report : RunReport :=
      ⟨[.ofFixtures "clox" [failed, broken], .ofFixtures "jlox" [⟨"a.lox", .passed⟩, skipped]]⟩
    (∀ text ∈ report.strings, IsBare text) ∧
      String.ofList (shownOf (report.ansi true).toList) = report.text true ∧
      ∀ parameter ∈ lastEscape? (report.ansi true).toList, parameter = ['0'] := by
  intro failed broken skipped report
  have bare : ∀ text ∈ report.strings, IsBare text := by decide
  obtain ⟨shown, reset⟩ := RunReport.ansi_decorates bare true
  exact ⟨bare, shown, reset _ [] (List.append_nil _).symm nofun⟩

end Conformance

import Mathlib.Tactic.IntervalCases
import Conformance.Proofs.Json.Number

/-! # Reading JSON

Every spelling of a value is read as that value: strings up to their closing quote, numbers to their
end, and what is nested by induction on the spelling. The fuel of the reader is never used up.
-/

namespace Conformance.Json

/-! ## Strings -/

theorem hexValue?_of_hexDigit {c : Char} {n : Nat} (digit : HexDigit c n) :
    hexValue? c = some n := by
  cases digit with
  | decimal small => interval_cases n <;> rfl
  | @lower k small => interval_cases k <;> rfl
  | @upper k small => interval_cases k <;> rfl

theorem simpleEscape?_of_escape {letter c : Char} (spells : Escape letter c) :
    simpleEscape? letter = some c := by
  cases spells <;> rfl

theorem Escape.ne_u {letter c : Char} (spells : Escape letter c) : letter ≠ 'u' := by
  cases spells <;> decide

theorem hexCode?_of_hexCode {a b c d : Char} {n : Nat} (code : HexCode [a, b, c, d] n) :
    hexCode? a b c d = some n := by
  obtain ⟨first, second, third, fourth⟩ := code
  simp [hexCode?, hexValue?_of_hexDigit first, hexValue?_of_hexDigit second,
    hexValue?_of_hexDigit third, hexValue?_of_hexDigit fourth]

theorem HexCode.exists_eq {digits : List Char} {n : Nat} (code : HexCode digits n) :
    ∃ a b c d, digits = [a, b, c, d] ∧ hexCode? a b c d = some n := by
  obtain @⟨a, b, c, d, x, y, z, w, first, second, third, fourth⟩ := code
  refine ⟨a, b, c, d, rfl, hexCode?_of_hexCode (.digits first second third fourth)⟩

theorem readString_plain {c : Char} (visible : 0x20 ≤ c.toNat) (quote : c ≠ '\"')
    (backslash : c ≠ '\\') (rest : List Char) :
    readString (c :: rest) = (readString rest).map fun read => (c :: read.1, read.2) := by
  rw [readString]
  all_goals simp_all

theorem readString_escape {letter c : Char} (spells : Escape letter c) (rest : List Char) :
    readString ('\\' :: letter :: rest) =
      (readString rest).map fun read => (c :: read.1, read.2) := by
  have := spells.ne_u
  rw [readString]
  all_goals simp_all [simpleEscape?_of_escape spells]

theorem readString_code {a b c d : Char} {n : Nat} (code : hexCode? a b c d = some n)
    (basic : n < 0xD800 ∨ 0xE000 ≤ n) (rest : List Char) :
    readString ('\\' :: 'u' :: a :: b :: c :: d :: rest) =
      (readString rest).map fun read => (Char.ofNat n :: read.1, read.2) := by
  by_cases paired : ∃ e f g h more, rest = '\\' :: 'u' :: e :: f :: g :: h :: more
  · obtain ⟨e, f, g, h, more, rfl⟩ := paired
    rw [readString.eq_3]
    have notHigh : ¬ (0xD800 ≤ n ∧ n < 0xDC00) := by omega
    have notLow : ¬ (0xDC00 ≤ n ∧ n < 0xE000) := by omega
    simp only [code, if_neg notHigh, if_neg notLow]
  · rw [readString.eq_4]
    · have notSurrogate : ¬ (0xD800 ≤ n ∧ n < 0xE000) := by omega
      simp only [code, if_neg notSurrogate]
    · rintro e f g h more rfl
      exact paired ⟨e, f, g, h, more, rfl⟩

theorem readString_pair {a b c d e f g h : Char} {high low : Nat}
    (leads : hexCode? a b c d = some high) (trails : hexCode? e f g h = some low)
    (upper : 0xD800 ≤ high ∧ high < 0xDC00) (lower : 0xDC00 ≤ low ∧ low < 0xE000)
    (rest : List Char) :
    readString ('\\' :: 'u' :: a :: b :: c :: d :: '\\' :: 'u' :: e :: f :: g :: h :: rest) =
      (readString rest).map fun read =>
        (Char.ofNat (0x10000 + (high - 0xD800) * 0x400 + (low - 0xDC00)) :: read.1, read.2) := by
  rw [readString.eq_3]
  simp only [leads, trails, upper, lower, and_self, if_true]

theorem readString_of_spellsText {text chars : List Char} (spells : SpellsText text chars)
    (rest : List Char) : readString (text ++ '\"' :: rest) = some (chars, rest) := by
  induction spells with
  | nil => rfl
  | plain visible quote backslash _ ih =>
    rw [List.cons_append, readString_plain visible quote backslash, ih]
    rfl
  | escape spells _ ih =>
    rw [List.cons_append, List.cons_append, readString_escape spells, ih]
    rfl
  | @code digits text chars n code basic _ ih =>
    obtain ⟨a, b, c, d, rfl, value⟩ := code.exists_eq
    have step := readString_code value basic (text ++ '\"' :: rest)
    rw [ih] at step
    exact step
  | @pair first second text chars high low leads trails upper lower _ ih =>
    obtain ⟨a, b, c, d, rfl, leading⟩ := leads.exists_eq
    obtain ⟨e, f, g, h, rfl, trailing⟩ := trails.exists_eq
    have step := readString_pair leading trailing upper lower (text ++ '\"' :: rest)
    rw [ih] at step
    exact step

/-! ## Values -/

theorem skipBlanks_append {blanks : List Char} (blank : Blanks blanks) (rest : List Char) :
    skipBlanks (blanks ++ rest) = skipBlanks rest := by
  unfold skipBlanks
  rw [List.dropWhile_append_of_pos]
  intro c among
  rcases blank c among with rfl | rfl | rfl | rfl <;> rfl

theorem skipBlanks_cons {c : Char} (notBlank : ¬ IsBlank c) (rest : List Char) :
    skipBlanks (c :: rest) = c :: rest := by
  unfold skipBlanks
  rw [List.dropWhile_cons_of_neg]
  simpa [IsBlank, or_assoc] using notBlank

/-- A value starts with a character that ends no array and is no blank. -/
structure Starts (c : Char) : Prop where
  notBlank : ¬ IsBlank c
  notBracket : c ≠ ']'

theorem StartsNumber.starts {c : Char} (first : StartsNumber c) : Starts c := by
  rcases first with digit | rfl
  · constructor
    · rintro (rfl | rfl | rfl | rfl) <;> cases digit
    · rintro rfl
      cases digit
  · exact ⟨by decide, by decide⟩

theorem Spells.exists_cons {text : List Char} {v : Json} (spells : Spells text v) :
    ∃ c rest, text = c :: rest ∧ Starts c := by
  cases spells with
  | null | true | false | string | emptyArray | array | emptyObject | object =>
    exact ⟨_, _, rfl, by decide, by decide⟩
  | integer n =>
    obtain ⟨c, rest, text, first⟩ := exists_cons_integer n
    exact ⟨c, rest, text, first.starts⟩
  | decimal number =>
    obtain ⟨c, rest, text, first⟩ := number.exists_cons
    exact ⟨c, rest, text, first.starts⟩

theorem StartsNumber.readValue {c : Char} (first : StartsNumber c) (fuel : Nat)
    (rest : List Char) : readValue (fuel + 1) (c :: rest) = readNumber (c :: rest) := by
  have other : ∀ d : Char, d.isDigit = false → d ≠ '-' → c ≠ d := by
    rintro d notDigit notMinus rfl
    rcases first with digit | minus
    · exact absurd digit (by simp [notDigit])
    · exact notMinus minus
  rw [Json.readValue] <;>
    exact fun text same => other _ (by decide) (by decide) (List.cons.inj same).1

/-- A text is read as a value, whatever follows it that could not be a part of a number. -/
def Reads (text : List Char) (v : Json) : Prop :=
  ∀ fuel rest, text.length ≤ fuel → Ends rest → readValue fuel (text ++ rest) = some (v, rest)

theorem reads_cons {c : Char} {text : List Char} {v : Json}
    (reads : ∀ fuel rest, text.length ≤ fuel → Ends rest →
      readValue (fuel + 1) (c :: (text ++ rest)) = some (v, rest)) : Reads (c :: text) v := by
  intro fuel rest enough ends
  rcases fuel with _ | fuel
  · cases enough
  · exact reads fuel rest (Nat.le_of_succ_le_succ enough) ends

theorem reads_of_readNumber {text : List Char} {v : Json}
    (first : ∃ c more, text = c :: more ∧ StartsNumber c)
    (read : ∀ rest, Ends rest → readNumber (text ++ rest) = some (v, rest)) : Reads text v := by
  obtain ⟨c, more, rfl, first⟩ := first
  refine reads_cons fun fuel rest _ ends => ?_
  rw [first.readValue]
  exact read rest ends

theorem ends_cons {mark : Char} (ends : EndsNumber mark) (rest : List Char) :
    Ends (mark :: rest) := by
  intro c first
  obtain rfl := Option.some.inj first
  exact ends

theorem Blanks.ends {blanks rest : List Char} (blank : Blanks blanks) (ends : Ends rest) :
    Ends (blanks ++ rest) := by
  rcases blanks with _ | ⟨b, blanks⟩
  · exact ends
  · refine ends_cons ?_ (blanks ++ rest)
    rcases blank b List.mem_cons_self with rfl | rfl | rfl | rfl <;> decide

/-- The value of a place is read in front of the mark that ends the place. -/
theorem Item.readValue_written {i : Item} (spells : Spells i.text i.value)
    (reads : Reads i.text i.value) {fuel : Nat} (enough : i.written.length ≤ fuel) {mark : Char}
    (ends : EndsNumber mark) (rest : List Char) :
    readValue fuel (skipBlanks (i.written ++ mark :: rest)) =
      some (i.value, i.after ++ mark :: rest) := by
  obtain ⟨c, more, text, first⟩ := spells.exists_cons
  have skipped : skipBlanks (i.written ++ mark :: rest) = i.text ++ (i.after ++ mark :: rest) := by
    rw [Item.written, List.append_assoc, List.append_assoc, skipBlanks_append i.blanksBefore, text,
      List.cons_append, skipBlanks_cons first.notBlank]
  have short : i.text.length ≤ fuel := by
    simp only [Item.written, List.length_append] at enough
    omega
  rw [skipped]
  exact reads fuel _ short (i.blanksAfter.ends (ends_cons ends rest))

theorem Item.readItems_written {i : Item} (spells : Spells i.text i.value)
    (reads : Reads i.text i.value) {fuel : Nat} (enough : i.written.length ≤ fuel) {mark : Char}
    (ends : EndsNumber mark) (notBlank : ¬ IsBlank mark) (rest : List Char) :
    readItems (fuel + 1) (skipBlanks (i.written ++ mark :: rest)) =
      match mark :: rest with
      | ']' :: rest => some ([i.value], rest)
      | ',' :: rest =>
        (readItems fuel (skipBlanks rest)).map fun read => (i.value :: read.1, read.2)
      | _ => none := by
  have after : skipBlanks (i.after ++ mark :: rest) = mark :: rest := by
    rw [skipBlanks_append i.blanksAfter, skipBlanks_cons notBlank]
  rw [readItems, i.readValue_written spells reads enough ends rest]
  dsimp only
  generalize skipBlanks (i.after ++ mark :: rest) = text at after ⊢
  subst after
  rfl

theorem readItems_commas {items : List Item} (inhabited : items ≠ [])
    (spells : ∀ i ∈ items, Spells i.text i.value) (reads : ∀ i ∈ items, Reads i.text i.value)
    {fuel : Nat} (enough : (commas (items.map Item.written)).length < fuel) (rest : List Char) :
    readItems fuel (skipBlanks (commas (items.map Item.written) ++ ']' :: rest)) =
      some (items.map Item.value, rest) := by
  induction items generalizing fuel with
  | nil => exact absurd rfl inhabited
  | cons i items ih =>
    obtain ⟨fuel, rfl⟩ := Nat.exists_eq_add_of_lt (Nat.lt_of_le_of_lt (Nat.zero_le _) enough)
    rw [Nat.zero_add] at enough ⊢
    have first := spells i List.mem_cons_self
    have read := reads i List.mem_cons_self
    rcases items with _ | ⟨next, items⟩
    · rw [List.map_singleton, commas_singleton] at enough ⊢
      rw [i.readItems_written first read (by omega) (by decide) (by decide)]
      rfl
    · have more : (next :: items).map Item.written ≠ [] := List.cons_ne_nil _ _
      rw [List.map_cons, commas_cons _ more] at enough ⊢
      rw [List.length_append, List.length_cons] at enough
      rw [List.append_assoc, List.cons_append,
        i.readItems_written first read (by omega) (by decide) (by decide)]
      have short : (commas ((next :: items).map Item.written)).length < fuel := by omega
      have others := ih (List.cons_ne_nil _ _)
        (fun j among => spells j (List.mem_cons_of_mem _ among))
        (fun j among => reads j (List.mem_cons_of_mem _ among)) short
      simp only [others, Option.map_some]
      rfl

theorem Member.readFields_written {m : Member} (spells : Spells m.item.text m.item.value)
    (reads : Reads m.item.text m.item.value) {fuel : Nat} (enough : m.written.length ≤ fuel)
    {mark : Char} (ends : EndsNumber mark) (notBlank : ¬ IsBlank mark) (rest : List Char) :
    readFields (fuel + 1) (skipBlanks (m.written ++ mark :: rest)) =
      match mark :: rest with
      | '\x7d' :: rest => some ([m.field], rest)
      | ',' :: rest =>
        (readFields fuel (skipBlanks rest)).map fun read => (m.field :: read.1, read.2)
      | _ => none := by
  have front : skipBlanks (m.written ++ mark :: rest) =
      '\"' :: (m.name ++ '\"' :: (m.after ++ ':' :: (m.item.written ++ mark :: rest))) := by
    rw [Member.written]
    simp only [List.append_assoc, List.cons_append]
    rw [skipBlanks_append m.blanksBefore, skipBlanks_cons (by decide)]
  have short : m.item.written.length ≤ fuel := by
    simp only [Member.written, List.length_append, List.length_cons] at enough
    omega
  rw [front, readFields]
  simp only [readString_of_spellsText m.spells, skipBlanks_append m.blanksAfter,
    skipBlanks_cons (show ¬ IsBlank ':' by decide),
    m.item.readValue_written spells reads short ends rest, skipBlanks_append m.item.blanksAfter,
    skipBlanks_cons notBlank]
  rfl

theorem readFields_commas {members : List Member} (inhabited : members ≠ [])
    (spells : ∀ m ∈ members, Spells m.item.text m.item.value)
    (reads : ∀ m ∈ members, Reads m.item.text m.item.value) {fuel : Nat}
    (enough : (commas (members.map Member.written)).length < fuel) (rest : List Char) :
    readFields fuel (skipBlanks (commas (members.map Member.written) ++ '\x7d' :: rest)) =
      some (members.map Member.field, rest) := by
  induction members generalizing fuel with
  | nil => exact absurd rfl inhabited
  | cons m members ih =>
    obtain ⟨fuel, rfl⟩ := Nat.exists_eq_add_of_lt (Nat.lt_of_le_of_lt (Nat.zero_le _) enough)
    rw [Nat.zero_add] at enough ⊢
    have first := spells m List.mem_cons_self
    have read := reads m List.mem_cons_self
    rcases members with _ | ⟨next, members⟩
    · rw [List.map_singleton, commas_singleton] at enough ⊢
      rw [m.readFields_written first read (by omega) (by decide) (by decide)]
      rfl
    · have more : (next :: members).map Member.written ≠ [] := List.cons_ne_nil _ _
      rw [List.map_cons, commas_cons _ more] at enough ⊢
      rw [List.length_append, List.length_cons] at enough
      rw [List.append_assoc, List.cons_append,
        m.readFields_written first read (by omega) (by decide) (by decide)]
      have short : (commas ((next :: members).map Member.written)).length < fuel := by omega
      have others := ih (List.cons_ne_nil _ _)
        (fun j among => spells j (List.mem_cons_of_mem _ among))
        (fun j among => reads j (List.mem_cons_of_mem _ among)) short
      simp only [others, Option.map_some]
      rfl

theorem readValue_array {c : Char} {text more : List Char} (fuel : Nat)
    (front : skipBlanks text = c :: more) (notBracket : c ≠ ']') :
    readValue (fuel + 1) ('[' :: text) =
      (readItems fuel (skipBlanks text)).map fun read => (.array read.1, read.2) := by
  rw [readValue, front]
  split
  · next same => exact absurd (List.cons.inj same).1 notBracket
  · rfl

theorem readValue_object {c : Char} {text more : List Char} (fuel : Nat)
    (front : skipBlanks text = c :: more) (notBrace : c ≠ '\x7d') :
    readValue (fuel + 1) ('\x7b' :: text) =
      (readFields fuel (skipBlanks text)).map fun read => (.object read.1, read.2) := by
  rw [readValue, front]
  split
  · next same => exact absurd (List.cons.inj same).1 notBrace
  · rfl

theorem exists_skipBlanks_items {items : List Item} (inhabited : items ≠ [])
    (spells : ∀ i ∈ items, Spells i.text i.value) (rest : List Char) :
    ∃ c more, skipBlanks (commas (items.map Item.written) ++ rest) = c :: more ∧ Starts c := by
  obtain ⟨i, items, rfl⟩ := List.exists_cons_of_ne_nil inhabited
  obtain ⟨c, more, text, first⟩ := (spells i List.mem_cons_self).exists_cons
  obtain ⟨others, front⟩ := exists_commas_eq i.written (items.map Item.written)
  refine ⟨c, more ++ i.after ++ others ++ rest, ?_, first⟩
  rw [List.map_cons, front, Item.written, text]
  simp only [List.append_assoc, List.cons_append]
  rw [skipBlanks_append i.blanksBefore, skipBlanks_cons first.notBlank]

theorem exists_skipBlanks_members {members : List Member} (inhabited : members ≠ [])
    (rest : List Char) :
    ∃ more, skipBlanks (commas (members.map Member.written) ++ rest) = '\"' :: more := by
  obtain ⟨m, members, rfl⟩ := List.exists_cons_of_ne_nil inhabited
  obtain ⟨others, front⟩ := exists_commas_eq m.written (members.map Member.written)
  rw [List.map_cons, front, Member.written]
  simp only [List.append_assoc, List.cons_append]
  rw [skipBlanks_append m.blanksBefore, skipBlanks_cons (by decide)]
  exact ⟨_, rfl⟩

/-- Every spelling is read as the value that it spells. -/
theorem Spells.reads {text : List Char} {v : Json} (spells : Spells text v) : Reads text v := by
  induction spells with
  | integer n =>
    exact reads_of_readNumber (exists_cons_integer n) fun rest ends => readNumber_integer n ends
  | decimal number =>
    exact reads_of_readNumber number.exists_cons fun rest ends => readNumber_decimal number ends
  | null | true | false => exact reads_cons fun fuel rest _ _ => rfl
  | string spells =>
    refine reads_cons fun fuel rest _ _ => ?_
    rw [List.append_assoc, readValue, List.singleton_append, readString_of_spellsText spells]
    rfl
  | emptyArray blank | emptyObject blank =>
    refine reads_cons fun fuel rest _ _ => ?_
    rw [List.append_assoc, readValue, skipBlanks_append blank, List.singleton_append,
      skipBlanks_cons (by decide)]
    rfl
  | array inhabited each ih =>
    refine reads_cons fun fuel rest enough _ => ?_
    rw [List.length_append, List.length_singleton] at enough
    obtain ⟨c, more, front, first⟩ := exists_skipBlanks_items inhabited each (']' :: rest)
    rw [List.append_assoc, List.singleton_append, readValue_array fuel front first.notBracket,
      readItems_commas inhabited each ih (by omega)]
    rfl
  | object inhabited each ih =>
    refine reads_cons fun fuel rest enough _ => ?_
    rw [List.length_append, List.length_singleton] at enough
    obtain ⟨more, front⟩ := exists_skipBlanks_members inhabited ('\x7d' :: rest)
    rw [List.append_assoc, List.singleton_append, readValue_object fuel front (by decide),
      readFields_commas inhabited each ih (by omega)]
    rfl

theorem parse?_of_isDocument {text : String} {v : Json} (document : IsDocument text v) :
    parse? text = some v := by
  obtain ⟨before, spelling, after, blanksBefore, spells, blanksAfter, chars⟩ := document
  obtain ⟨c, more, front, first⟩ := spells.exists_cons
  have start : skipBlanks text.toList = spelling ++ after := by
    rw [chars, skipBlanks_append blanksBefore, front, List.cons_append,
      skipBlanks_cons first.notBlank]
  have enough : spelling.length ≤ 2 * text.toList.length + 2 := by
    rw [chars, List.length_append, List.length_append]
    omega
  have read : readValue (2 * text.toList.length + 2) (spelling ++ after) = some (v, after) := by
    refine spells.reads _ after enough ?_
    rw [← List.append_nil after]
    exact blanksAfter.ends nofun
  have finish : skipBlanks after = [] := by
    rw [← List.append_nil after, skipBlanks_append blanksAfter]
    rfl
  unfold parse?
  simp only [start, read, finish]
  rfl

end Conformance.Json

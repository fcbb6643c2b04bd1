import Conformance.Proofs.Json.Spelling

/-! # Printed JSON

The printed form of a value over several lines is a spelling of the value, if all its numbers are
integers.
-/

namespace Conformance.Json

/-- A value whose numbers are integers. -/
inductive IsIntegral : Json → Prop
  | null : IsIntegral .null
  | bool (b : Bool) : IsIntegral (.bool b)
  | integer (n : Int) : IsIntegral (.integer n)
  | string (text : String) : IsIntegral (.string text)
  | array {items : List Json} (each : ∀ v ∈ items, IsIntegral v) : IsIntegral (.array items)
  | object {fields : List (String × Json)} (each : ∀ f ∈ fields, IsIntegral f.2) :
      IsIntegral (.object fields)

theorem blanks_nil : Blanks [] := nofun

theorem blanks_newline (level : Nat) : Blanks (newline level) := by
  intro c among
  rcases List.mem_cons.mp among with rfl | indented
  · exact .inr (.inl rfl)
  · exact .inl (List.eq_of_mem_replicate indented)

theorem hexDigit_spec {n : Nat} (small : n < 16) : HexDigit (hexDigit n) n := by
  unfold hexDigit
  split
  · next below => exact .decimal below
  · next above =>
    obtain ⟨k, rfl⟩ := Nat.exists_eq_add_of_le (Nat.le_of_not_lt above)
    have moved : 87 + (10 + k) = 97 + k := by omega
    rw [moved]
    exact .lower (by omega)

theorem hexCode_control {n : Nat} (small : n < 0x20) :
    HexCode ['0', '0', hexDigit (n / 16), hexDigit (n % 16)] n := by
  have zero : HexDigit '0' 0 := HexDigit.decimal (n := 0) (by decide)
  have code := HexCode.digits zero zero (hexDigit_spec (n := n / 16) (by omega))
    (hexDigit_spec (n := n % 16) (by omega))
  have value : ((0 * 16 + 0) * 16 + n / 16) * 16 + n % 16 = n := by omega
  rwa [value] at code

theorem SpellsText.escape_append (c : Char) {text chars : List Char}
    (rest : SpellsText text chars) : SpellsText (Json.escape c ++ text) (c :: chars) := by
  unfold Json.escape
  split_ifs with quote backslash lineFeed carriageReturn tab backspace formFeed control
  · subst quote; exact .escape .quote rest
  · subst backslash; exact .escape .backslash rest
  · subst lineFeed; exact .escape .lineFeed rest
  · subst carriageReturn; exact .escape .carriageReturn rest
  · subst tab; exact .escape .tab rest
  · subst backspace; exact .escape .backspace rest
  · subst formFeed; exact .escape .formFeed rest
  · have coded := SpellsText.code (hexCode_control control) (.inl (by omega)) rest
    rwa [Char.ofNat_toNat] at coded
  · exact .plain (by omega) quote backslash rest

theorem spellsText_escape (chars : List Char) : SpellsText (chars.flatMap escape) chars := by
  induction chars with
  | nil => exact .nil
  | cons c chars ih =>
    rw [List.flatMap_cons]
    exact ih.escape_append c

theorem spells_quote (text : String) : Spells (quote text) (.string text) := by
  have spelled := Spells.string (spellsText_escape text.toList)
  rwa [String.ofList_toList] at spelled

theorem exists_items (level : Nat) {values : List Json} (inhabited : values ≠ []) :
    ∃ items : List Item, items.map Item.value = values ∧
      (∀ i ∈ items, i.text = pretty (level + 1) i.value) ∧
      newline (level + 1) ++ prettyItems level values =
        commas (items.map Item.written) ++ [']'] := by
  induction values with
  | nil => exact absurd rfl inhabited
  | cons v values ih =>
    rcases values with _ | ⟨w, values⟩
    · let last : Item := ⟨newline (level + 1), pretty (level + 1) v, newline level, v,
        blanks_newline _, blanks_newline _⟩
      refine ⟨[last], rfl, by simp [last], ?_⟩
      simp [prettyItems, commas_singleton, Item.written, last]
    · obtain ⟨items, values_eq, texts, written⟩ := ih (by simp)
      let first : Item :=
        ⟨newline (level + 1), pretty (level + 1) v, [], v, blanks_newline _, blanks_nil⟩
      refine ⟨first :: items, by simp [first, values_eq], ?_, ?_⟩
      · simpa [first] using texts
      · have more : items.map Item.written ≠ [] := by
          rintro none
          simp [List.map_eq_nil_iff.mp none] at values_eq
        rw [List.map_cons, commas_cons _ more, List.append_assoc, List.cons_append, ← written]
        simp [prettyItems, Item.written, first]

theorem exists_members (level : Nat) {fields : List (String × Json)} (inhabited : fields ≠ []) :
    ∃ members : List Member, members.map Member.field = fields ∧
      (∀ m ∈ members, m.item.text = pretty (level + 1) m.item.value) ∧
      newline (level + 1) ++ prettyFields level fields =
        commas (members.map Member.written) ++ ['\x7d'] := by
  induction fields with
  | nil => exact absurd rfl inhabited
  | cons field fields ih =>
    obtain ⟨name, v⟩ := field
    have blank : Blanks [' '] := by
      intro c among
      exact .inl (List.mem_singleton.mp among)
    -- the last member is followed by a line end, the others by a comma
    let member (after : List Char) (blanks : Blanks after) : Member :=
      ⟨newline (level + 1), name.toList.flatMap escape, name.toList, [],
        ⟨[' '], pretty (level + 1) v, after, v, blank, blanks⟩, blanks_newline _, blanks_nil,
        spellsText_escape _⟩
    rcases fields with _ | ⟨next, fields⟩
    · refine ⟨[member (newline level) (blanks_newline _)], by simp [member, Member.field],
        by simp [member], ?_⟩
      simp [prettyFields, commas_singleton, Member.written, Item.written, quote, member]
    · obtain ⟨members, fields_eq, texts, written⟩ := ih (by simp)
      refine ⟨member [] blanks_nil :: members, by simp [member, Member.field, fields_eq], ?_, ?_⟩
      · simpa [member] using texts
      · have more : members.map Member.written ≠ [] := by
          rintro none
          simp [List.map_eq_nil_iff.mp none] at fields_eq
        rw [List.map_cons, commas_cons _ more, List.append_assoc, List.cons_append, ← written]
        simp [prettyFields, Member.written, Item.written, quote, member]

theorem spells_pretty {v : Json} (integral : IsIntegral v) (level : Nat) :
    Spells (pretty level v) v := by
  induction integral generalizing level with
  | null => exact .null
  | bool b =>
    cases b
    · exact .false
    · exact .true
  | integer n => exact .integer n
  | string text => exact spells_quote text
  | @array values each ih =>
    rcases values with _ | ⟨v, values⟩
    · exact .emptyArray blanks_nil
    · obtain ⟨items, values_eq, texts, written⟩ := exists_items level (List.cons_ne_nil v values)
      have inhabited : items ≠ [] := by
        rintro rfl
        cases values_eq
      have spelled := Spells.array inhabited fun i among => by
        rw [texts i among]
        exact ih _ (values_eq ▸ List.mem_map_of_mem among) _
      rwa [values_eq, ← written] at spelled
  | @object fields each ih =>
    rcases fields with _ | ⟨field, fields⟩
    · exact .emptyObject blanks_nil
    · obtain ⟨members, fields_eq, texts, written⟩ :=
        exists_members level (List.cons_ne_nil field fields)
      have inhabited : members ≠ [] := by
        rintro rfl
        cases fields_eq
      have spelled := Spells.object inhabited fun m among => by
        rw [texts m among]
        exact ih m.field (fields_eq ▸ List.mem_map_of_mem among) _
      rwa [fields_eq, ← written] at spelled

theorem isDocument_document {v : Json} (integral : IsIntegral v) : IsDocument v.document v :=
  ⟨[], _, ['\n'], blanks_nil, spells_pretty integral 0, by simp [Blanks, IsBlank],
    String.toList_ofList⟩

end Conformance.Json

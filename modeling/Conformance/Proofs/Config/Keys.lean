import Mathlib.Tactic.Tauto
import Conformance.Proofs.Config.Record

/-! # Keys of a configuration document

A document with a key that is not known is refused if the key belongs to the configuration or to one
of its suites. Among the exit codes such a key is passed over, and what stands under it: a document
with it is read like the document without it.
-/

namespace Conformance

open ValueFormat

section Sequences

variable {α β : Type} {f : α → Option β} {a : α} {l l' : List α} {ys : List β}

theorem mapM_append_eq_some_iff : (l ++ l').mapM f = some ys ↔
    ∃ front back, l.mapM f = some front ∧ l'.mapM f = some back ∧ front ++ back = ys := by
  simp only [List.mapM_append, Option.bind_eq_bind, Option.bind_eq_some_iff, Option.pure_def,
    Option.some.injEq]
  constructor
  · rintro ⟨front, first, back, second, rfl⟩
    exact ⟨front, back, first, second, rfl⟩
  · rintro ⟨front, back, first, second, rfl⟩
    exact ⟨front, first, back, second, rfl⟩

theorem mapM_cons_eq_some_iff : (a :: l).mapM f = some ys ↔
    ∃ y rest, f a = some y ∧ l.mapM f = some rest ∧ y :: rest = ys := by
  simp only [List.mapM_cons, Option.bind_eq_bind, Option.bind_eq_some_iff, Option.pure_def,
    Option.some.injEq]
  constructor
  · rintro ⟨y, first, rest, others, rfl⟩
    exact ⟨y, rest, first, others, rfl⟩
  · rintro ⟨y, rest, first, others, rfl⟩
    exact ⟨y, first, rest, others, rfl⟩

theorem exists_mem_of_mapM_eq_some (answered : l.mapM f = some ys) (listed : a ∈ l) :
    ∃ y ∈ ys, f a = some y := by
  obtain ⟨before, after, rfl⟩ := List.append_of_mem listed
  obtain ⟨front, back, -, second, rfl⟩ := mapM_append_eq_some_iff.mp answered
  obtain ⟨y, rest, answer, -, rfl⟩ := mapM_cons_eq_some_iff.mp second
  exact ⟨y, List.mem_append_right front List.mem_cons_self, answer⟩

end Sequences

/-! ## The keys of a document -/

inductive Config.Level where
  | config | exitCodes | suite
deriving DecidableEq

def Config.Level.names : Level → List String
  | .config => configNames
  | .exitCodes => exitCodeNames
  | .suite => suiteNames

namespace Yaml.Node

def Holds (node : Node) (name : String) (value : Node) : Prop :=
  ∃ pairs key, node.target = .mapping pairs ∧ (key, value) ∈ pairs ∧ key.text? = some name

/-- The places of a document that are read as a configuration, as exit codes and as suites. -/
inductive HasPart (document : Node) : Config.Level → Node → Prop
  | config : HasPart document .config document
  | exitCodes {codes : Node} : document.Holds "exit_codes" codes →
      HasPart document .exitCodes codes
  | suite {suites item : Node} {items : List Node} : document.Holds "suites" suites →
      suites.target = .sequence items → item ∈ items → HasPart document .suite item

def IsMisspelt (level : Config.Level) (key : Node) : Prop :=
  ∀ name ∈ level.names, key.text? ≠ some name

/-- A mapping of a document has a key that is not known there. -/
def Misspells (document : Node) (level : Config.Level) : Prop :=
  ∃ part pairs key value, document.HasPart level part ∧ part.target = .mapping pairs ∧
    (key, value) ∈ pairs ∧ key.IsMisspelt level

/-- A text with a document in it. -/
def IsDocument (text : String) (document : Node) : Prop :=
  ¬ text.toList.all Text.isBlank ∧ ofText? text = some (some document)

variable {node document : Node} {pairs : List (Node × Node)} {name : String} {key value : Node}
  {fields : List (String × Node)}

/-! ## Fields of a mapping -/

def field? (pair : Node × Node) : Option (String × Node) :=
  pair.1.text?.map fun name => (name, pair.2)

theorem fields?_of_mapping (mapping : node.target = .mapping pairs) :
    node.fields? = pairs.mapM field? := by
  rw [fields?, mapping]
  rfl

theorem field?_eq_some_iff {field : String × Node} :
    field? (key, value) = some field ↔ key.text? = some field.1 ∧ value = field.2 := by
  obtain ⟨name, other⟩ := field
  simp [field?, Option.map_eq_some_iff]

theorem exists_field (read : pairs.mapM field? = some fields) (listed : (key, value) ∈ pairs) :
    ∃ name, key.text? = some name ∧ (name, value) ∈ fields := by
  obtain ⟨⟨name, other⟩, given, answer⟩ := exists_mem_of_mapM_eq_some read listed
  obtain ⟨named, rfl⟩ := field?_eq_some_iff.mp answer
  exact ⟨name, named, given⟩

/-! ## Refused keys -/

/-- The record of a mapping with strict keys has no key that is not known. -/
theorem not_isMisspelt_of_record {level : Config.Level}
    (record : Yaml.reading.IsRecord level.names node fields) (known : IsKnown level.names fields)
    (mapping : node.target = .mapping pairs) (listed : (key, value) ∈ pairs) :
    ¬ key.IsMisspelt level := by
  have read : pairs.mapM field? = some fields := fields?_of_mapping mapping ▸ record.1
  obtain ⟨name, named, given⟩ := exists_field read listed
  intro misspelt
  exact misspelt name (known _ given) named

theorem suite_of_config {c : Config} {suites : Node} {items : List Node} {item : Node}
    (read : Yaml.reading.config document = some c) (held : document.Holds "suites" suites)
    (sequence : suites.target = .sequence items) (among : item ∈ items) :
    ∃ s, Yaml.reading.suite item = some s := by
  obtain ⟨fields, record, -, -, -, -, -, -, gives⟩ := config_eq_some_iff.mp read
  obtain ⟨pairs, key, mapping, listed, named⟩ := held
  have fields_read : pairs.mapM field? = some fields := fields?_of_mapping mapping ▸ record.1
  obtain ⟨name, named', given⟩ := exists_field fields_read listed
  obtain rfl : "suites" = name := Option.some.inj (named.symm.trans named')
  have answer := gives.given suites given
  have items_read : Yaml.reading.items suites = some items := by
    show suites.items? = some items
    rw [items?, sequence]
  rw [ValueFormat.suites, items_read, Option.bind_some] at answer
  obtain ⟨s, -, read⟩ := exists_mem_of_mapM_eq_some answer among
  exact ⟨s, read⟩

/-- A document that is read has no unknown key except among its exit codes. -/
theorem level_of_misspells {c : Config} {level : Config.Level}
    (read : Yaml.reading.config document = some c) (misspells : document.Misspells level) :
    level = .exitCodes := by
  obtain ⟨part, pairs, key, value, isPart, mapping, listed, misspelt⟩ := misspells
  cases isPart with
  | config =>
    obtain ⟨fields, record, known, -⟩ := config_eq_some_iff.mp read
    exact absurd misspelt (not_isMisspelt_of_record record known mapping listed)
  | exitCodes _ => rfl
  | suite held sequence among =>
    obtain ⟨s, read⟩ := suite_of_config read held sequence among
    obtain ⟨fields, record, known, -⟩ := suite_eq_some_iff.mp read
    exact absurd misspelt (not_isMisspelt_of_record record known mapping listed)

end Yaml.Node

/-! ## Keys that are passed over -/

namespace ValueFormat

variable {V α : Type} {front back : List (String × V)} {names : List String} {name other : String}
  {v w : V} {default a : α} {read : V → Option α}

theorem Once.replace (h : Once (front ++ (other, v) :: back) names) :
    Once (front ++ (other, w) :: back) names := by
  intro name known
  have single := h name known
  rw [← List.countP_eq_length_filter, List.countP_append, List.countP_cons] at single ⊢
  exact single

theorem Once.insert (h : Once (front ++ back) names) (unknown : other ∉ names) :
    Once (front ++ (other, w) :: back) names := by
  intro name known
  have single := h name known
  have apart : other ≠ name := fun same => unknown (same ▸ known)
  simpa [apart] using single

theorem IsKnown.replace (h : IsKnown names (front ++ (other, v) :: back)) :
    IsKnown names (front ++ (other, w) :: back) := by
  simp only [IsKnown, List.forall_mem_append, List.forall_mem_cons] at h ⊢
  exact h

theorem mem_insert_iff {u : V} : (name, u) ∈ front ++ (other, w) :: back ↔
    (name, u) ∈ front ++ back ∨ name = other ∧ u = w := by
  simp only [List.mem_append, List.mem_cons, Prod.mk.injEq]
  tauto

theorem Gives.replace (h : Gives (front ++ (other, v) :: back) name default read a)
    (same : other = name → read v = some a → read w = some a) :
    Gives (front ++ (other, w) :: back) name default read a where
  given := by
    intro u given
    rcases mem_insert_iff.mp given with elsewhere | ⟨rfl, rfl⟩
    · exact h.given u (mem_insert_iff.mpr (.inl elsewhere))
    · exact same rfl (h.given v (mem_insert_iff.mpr (.inr ⟨rfl, rfl⟩)))
  absent := by
    intro absent
    refine h.absent fun u given => ?_
    rcases mem_insert_iff.mp given with elsewhere | ⟨rfl, rfl⟩
    · exact absent u (mem_insert_iff.mpr (.inl elsewhere))
    · exact absent w (mem_insert_iff.mpr (.inr ⟨rfl, rfl⟩))

theorem Gives.insert (h : Gives (front ++ back) name default read a) (apart : other ≠ name) :
    Gives (front ++ (other, w) :: back) name default read a where
  given := by
    intro u given
    rcases mem_insert_iff.mp given with elsewhere | ⟨rfl, -⟩
    · exact h.given u elsewhere
    · exact absurd rfl apart
  absent := by
    intro absent
    refine h.absent fun u given => ?_
    exact absent u (mem_insert_iff.mpr (.inl given))

end ValueFormat

namespace Yaml.Node

variable {before after front back : List (Node × Node)} {codesKey key value : Node} {name : String}

def withCodes (before after : List (Node × Node)) (codesKey : Node) (codes : List (Node × Node)) :
    Node :=
  .mapping (before ++ (codesKey, .mapping codes) :: after)

theorem exitCodes_insert {codes : ExitCodes} (named : key.text? = some name)
    (unknown : name ∉ exitCodeNames)
    (read : Yaml.reading.exitCodes (.mapping (front ++ back)) = some codes) :
    Yaml.reading.exitCodes (.mapping (front ++ (key, value) :: back)) = some codes := by
  obtain ⟨fields, ⟨given, once⟩, compileError, runtimeError⟩ := exitCodes_eq_some_iff.mp read
  obtain ⟨first, last, front_read, back_read, rfl⟩ := mapM_append_eq_some_iff.mp given
  have field : field? (key, value) = some (name, value) := field?_eq_some_iff.mpr ⟨named, rfl⟩
  have inserted := mapM_append_eq_some_iff.mpr ⟨first, (name, value) :: last, front_read,
    mapM_cons_eq_some_iff.mpr ⟨_, _, field, back_read, rfl⟩, rfl⟩
  have apart {known : String} (listed : known ∈ exitCodeNames) : name ≠ known :=
    fun same => unknown (same ▸ listed)
  exact exitCodes_eq_some_iff.mpr ⟨_, ⟨inserted, once.insert unknown⟩,
    compileError.insert (apart (by decide)), runtimeError.insert (apart (by decide))⟩

theorem fields?_withCodes {codes : List (Node × Node)} {fields : List (String × Node)}
    (codesNamed : codesKey.text? = some "exit_codes") :
    (withCodes before after codesKey codes).fields? = some fields ↔
      ∃ first last, before.mapM field? = some first ∧ after.mapM field? = some last ∧
        first ++ ("exit_codes", .mapping codes) :: last = fields := by
  have field : field? (codesKey, .mapping codes) = some ("exit_codes", .mapping codes) :=
    field?_eq_some_iff.mpr ⟨codesNamed, rfl⟩
  have mapping : (withCodes before after codesKey codes).target =
      .mapping (before ++ (codesKey, .mapping codes) :: after) := rfl
  rw [fields?_of_mapping mapping, mapM_append_eq_some_iff]
  constructor
  · rintro ⟨first, rest, before_read, rest_read, rfl⟩
    obtain ⟨own, last, answer, after_read, rfl⟩ := mapM_cons_eq_some_iff.mp rest_read
    obtain rfl : own = ("exit_codes", .mapping codes) := Option.some.inj (answer.symm.trans field)
    exact ⟨first, last, before_read, after_read, rfl⟩
  · rintro ⟨first, last, before_read, after_read, rfl⟩
    have rest_read := mapM_cons_eq_some_iff.mpr ⟨_, last, field, after_read, rfl⟩
    exact ⟨first, _, before_read, rest_read, rfl⟩

/-- A key that is not known can be put in anywhere among the exit codes, with any value. -/
theorem config_insert {c : Config} (codesNamed : codesKey.text? = some "exit_codes")
    (named : key.text? = some name) (unknown : name ∉ exitCodeNames)
    (read : Yaml.reading.config (withCodes before after codesKey (front ++ back)) = some c) :
    Yaml.reading.config (withCodes before after codesKey (front ++ (key, value) :: back)) =
      some c := by
  obtain ⟨fields, ⟨given, once⟩, known, codes, timeoutSecs, jobs, extension, exclude, suites⟩ :=
    config_eq_some_iff.mp read
  obtain ⟨first, last, before_read, after_read, rfl⟩ := (fields?_withCodes codesNamed).mp given
  have inserted : (withCodes before after codesKey (front ++ (key, value) :: back)).fields? =
      some (first ++ ("exit_codes", .mapping (front ++ (key, value) :: back)) :: last) :=
    (fields?_withCodes codesNamed).mpr ⟨first, last, before_read, after_read, rfl⟩
  refine config_eq_some_iff.mpr ⟨_, ⟨inserted, once.replace⟩, known.replace,
    codes.replace fun _ => exitCodes_insert named unknown, timeoutSecs.replace ?_,
    jobs.replace ?_, extension.replace ?_, exclude.replace ?_, suites.replace ?_⟩ <;>
  · intro same
    exact absurd same (by decide)

/-! ## Aliases -/

theorem marksAmong_append (front back : List (Node × Node)) :
    marksAmong (front ++ back) = marksAmong front + marksAmong back := by
  induction front with
  | nil => simp [marksAmong]
  | cons pair front ih =>
    simp only [List.cons_append, marksAmong, ih]
    omega

theorem marks_insert : (withCodes before after codesKey (front ++ back)).marks ≤
    (withCodes before after codesKey (front ++ (key, value) :: back)).marks := by
  simp only [withCodes, marks, marksAmong_append, marksAmong]
  omega

theorem exitCodeFollows_insert (plain : key.follows = 0) (named : key.text? = some name)
    (unknown : name ∉ exitCodeNames) :
    Config.exitCodeFollows (.mapping (front ++ (key, value) :: back)) =
      Config.exitCodeFollows (.mapping (front ++ back)) := by
  have passed : key.text?.any exitCodeNames.contains = false := by simpa [named] using unknown
  simp [Config.exitCodeFollows, target, plain, passed]

theorem follows_insert (plain : key.follows = 0) (codesNamed : codesKey.text? = some "exit_codes")
    (named : key.text? = some name) (unknown : name ∉ exitCodeNames) :
    Config.follows (withCodes before after codesKey (front ++ (key, value) :: back)) =
      Config.follows (withCodes before after codesKey (front ++ back)) := by
  have same : Config.exitCodeFollows (.mapping (front ++ (key, value) :: back)) =
      Config.exitCodeFollows (.mapping (front ++ back)) :=
    exitCodeFollows_insert plain named unknown
  simp [Config.follows, withCodes, codesNamed, same]

end Yaml.Node

namespace Config

open Yaml Yaml.Node

theorem ofNode?_eq_some_iff {document : Node} {c : Config} : ofNode? document = some c ↔
    follows document ≤ repetitionLimit * document.marks ∧
      Yaml.reading.config document = some c := by
  rw [ofNode?]
  split
  · next beyond => simp [Nat.not_le.mpr beyond]
  · next within => simp [Nat.not_lt.mp within]

theorem ofYaml?_of_isDocument {text : String} {document : Node} (h : IsDocument text document) :
    ofYaml? text = ofNode? document := by
  obtain ⟨visible, read⟩ := h
  rw [ofYaml?, if_neg visible, read]

theorem misspells_insert {before after front back : List (Node × Node)} {codesKey value : Node}
    {tag : Option String} {style : Style} {name : String}
    (codesNamed : codesKey.text? = some "exit_codes") (unknown : name ∉ exitCodeNames) :
    (withCodes before after codesKey
      (front ++ (.scalar tag style name, value) :: back)).Misspells .exitCodes := by
  have held : (withCodes before after codesKey
      (front ++ (.scalar tag style name, value) :: back)).Holds "exit_codes" _ :=
    ⟨_, codesKey, rfl, List.mem_append_right before List.mem_cons_self, codesNamed⟩
  refine ⟨_, _, _, value, .exitCodes held, rfl,
    List.mem_append_right front List.mem_cons_self, ?_⟩
  intro known listed same
  obtain rfl : name = known := Option.some.inj same
  exact unknown listed

theorem ofNode?_insert {before after front back : List (Node × Node)} {codesKey value : Node}
    {tag : Option String} {style : Style} {name : String} {c : Config}
    (codesNamed : codesKey.text? = some "exit_codes") (unknown : name ∉ exitCodeNames)
    (read : ofNode? (withCodes before after codesKey (front ++ back)) = some c) :
    ofNode? (withCodes before after codesKey (front ++ (.scalar tag style name, value) :: back)) =
      some c := by
  have plain : (Node.scalar tag style name).follows = 0 := rfl
  have named : (Node.scalar tag style name).text? = some name := rfl
  obtain ⟨within, answer⟩ := ofNode?_eq_some_iff.mp read
  refine ofNode?_eq_some_iff.mpr ⟨?_, config_insert codesNamed named unknown answer⟩
  calc follows (withCodes before after codesKey (front ++ (.scalar tag style name, value) :: back))
      = follows (withCodes before after codesKey (front ++ back)) :=
        follows_insert plain codesNamed named unknown
    _ ≤ repetitionLimit * (withCodes before after codesKey (front ++ back)).marks := within
    _ ≤ _ := Nat.mul_le_mul_left repetitionLimit marks_insert

/-- A document that is read has no key that is not known, except among its exit codes. There such a
key can be put in at any place, with any value: the document is read as before. -/
theorem misspelt_exitCodes {text : String} {document : Node} {c : Config}
    (isDocument : IsDocument text document) (read : ofYaml? text = some c) :
    (∀ level, document.Misspells level → level = .exitCodes) ∧
      ((∀ level, ¬ document.Misspells level) ↔ ¬ document.Misspells .exitCodes) ∧
      ∀ before after front back codesKey tag style name value,
        document = withCodes before after codesKey (front ++ back) →
        codesKey.text? = some "exit_codes" → name ∉ exitCodeNames →
        (withCodes before after codesKey
            (front ++ (.scalar tag style name, value) :: back)).Misspells .exitCodes ∧
          ofNode? (withCodes before after codesKey
            (front ++ (.scalar tag style name, value) :: back)) = some c := by
  rw [ofYaml?_of_isDocument isDocument] at read
  have only : ∀ level, document.Misspells level → level = .exitCodes :=
    fun level => level_of_misspells (ofNode?_eq_some_iff.mp read).2
  refine ⟨only, ⟨fun none => none .exitCodes, fun known level misspells => ?_⟩, ?_⟩
  · obtain rfl := only level misspells
    exact known misspells
  · rintro before after front back codesKey tag style name value rfl codesNamed unknown
    exact ⟨misspells_insert codesNamed unknown, ofNode?_insert codesNamed unknown read⟩

theorem isDocument_of_tokens {text : String} {tokens : List Token} {document : Node}
    (visible : ¬ text.toList.all Text.isBlank) (scanned : Token.ofText? text.toList = some tokens)
    (parsed : readDocument tokens = some (some document, [.streamEnd])) :
    IsDocument text document := by
  refine ⟨visible, ?_⟩
  simp only [ofText?, scanned, parsed, Option.bind_eq_bind, Option.bind_some]
  rfl

def codesOnly (codes : List (Node × Node)) : Node :=
  withCodes [] [] (.scalar none .plain "exit_codes") codes

def misspelt : Node := codesOnly [(.scalar none .plain "compile_eror", .scalar none .plain "64")]

theorem isDocument_codesOnly : IsDocument "exit_codes:\n  \x7b\x7d\n" (codesOnly []) := by
  have tokens : Token.ofText? "exit_codes:\n  \x7b\x7d\n".toList =
      some [.blockMappingStart, .key, .scalar .plain "exit_codes", .value,
        .flowMappingStart, .flowMappingEnd, .blockEnd, .streamEnd] := rfl
  exact isDocument_of_tokens (by decide) tokens rfl

theorem isDocument_misspelt : IsDocument "exit_codes:\n  compile_eror: 64\n" misspelt := by
  have tokens : Token.ofText? "exit_codes:\n  compile_eror: 64\n".toList =
      some [.blockMappingStart, .key, .scalar .plain "exit_codes", .value,
        .blockMappingStart, .key, .scalar .plain "compile_eror", .value, .scalar .plain "64",
        .blockEnd, .blockEnd, .streamEnd] := rfl
  exact isDocument_of_tokens (by decide) tokens rfl

theorem misspelt_exitCodes_default :
    ∃ text document, IsDocument text document ∧ document.Misspells .exitCodes ∧
      ofYaml? text = some {} ∧ ∀ level, document.Misspells level → level = .exitCodes := by
  have read : ofYaml? "exit_codes:\n  \x7b\x7d\n" = some {} :=
    ofYaml?_of_isDocument isDocument_codesOnly
  obtain ⟨-, -, insert⟩ := misspelt_exitCodes isDocument_codesOnly read
  obtain ⟨misspells, same⟩ := insert [] [] [] [] _ none .plain "compile_eror"
    (.scalar none .plain "64") rfl rfl (by decide)
  have answer := (ofYaml?_of_isDocument isDocument_misspelt).trans same
  obtain ⟨only, -, -⟩ := misspelt_exitCodes isDocument_misspelt answer
  exact ⟨_, misspelt, isDocument_misspelt, misspells, answer, only⟩

end Config

end Conformance

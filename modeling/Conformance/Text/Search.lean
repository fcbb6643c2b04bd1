/-! # Searching a text

Texts are lists of characters. A recogniser looks at the front of a text; `leftmost` moves it to
the first place where it succeeds.
-/

namespace Conformance.Text

variable {α : Type}

/-- What follows `needle` in a text that starts with it. -/
def after? : (needle text : List Char) → Option (List Char)
  | [], text => some text
  | _ :: _, [] => none
  | n :: ns, c :: cs => if n = c then after? ns cs else none

/-- The first suffix that `p` accepts: the characters before it, and what `p` made of it. -/
def leftmost (p : List Char → Option α) : List Char → Option (List Char × α)
  | [] => (p []).map fun a => ([], a)
  | c :: cs =>
    match p (c :: cs) with
    | some a => some ([], a)
    | none => (leftmost p cs).map fun found => (c :: found.1, found.2)

def occurs (needle text : List Char) : Bool :=
  (leftmost (after? needle) text).isSome

def run? (p : Char → Bool) (text : List Char) : Option (List Char × List Char) :=
  match text.takeWhile p with
  | [] => none
  | front => some (front, text.dropWhile p)

def contains (text needle : String) : Bool :=
  occurs needle.toList text.toList

/-- Every occurrence of `needle`, from the left and without overlap, replaced by `replacement`.
The fuel is the length of the text: each replacement consumes a character. -/
def substituteFrom (needle replacement : List Char) : Nat → List Char → List Char
  | 0, text => text
  | _ + 1, [] => []
  | fuel + 1, c :: cs =>
    match after? needle (c :: cs) with
    | some rest => replacement ++ substituteFrom needle replacement fuel rest
    | none => c :: substituteFrom needle replacement fuel cs

def substitute (needle replacement text : List Char) : List Char :=
  substituteFrom needle replacement text.length text

theorem after?_append (needle text : List Char) : after? needle (needle ++ text) = some text := by
  induction needle with
  | nil => rfl
  | cons n ns ih => simp [after?, ih]

theorem after?_eq_some_iff {needle text rest : List Char} :
    after? needle text = some rest ↔ text = needle ++ rest := by
  constructor
  · intro h
    fun_induction after? needle text with
    | case1 text => simpa using h
    | case2 => simp at h
    | case3 ns c cs ih => simp [ih h]
    | case4 => simp at h
  · rintro rfl
    exact after?_append needle rest

theorem leftmost_append {p : List Char → Option α} {text front : List Char} {a : α}
    (h : leftmost p text = some (front, a)) : ∃ rest, text = front ++ rest ∧ p rest = some a := by
  induction text generalizing front with
  | nil =>
    obtain ⟨b, hb, hf⟩ := Option.map_eq_some_iff.1 h
    obtain ⟨rfl, rfl⟩ := Prod.mk.inj hf
    exact ⟨[], rfl, hb⟩
  | cons c cs ih =>
    unfold leftmost at h
    split at h
    · next b hb =>
      obtain ⟨rfl, rfl⟩ := Prod.mk.inj (Option.some.inj h)
      exact ⟨c :: cs, rfl, hb⟩
    · obtain ⟨found, hf, he⟩ := Option.map_eq_some_iff.1 h
      obtain ⟨rfl, rfl⟩ := Prod.mk.inj he
      obtain ⟨rest, hr, hp⟩ := ih hf
      exact ⟨rest, by simp [← hr], hp⟩

end Conformance.Text

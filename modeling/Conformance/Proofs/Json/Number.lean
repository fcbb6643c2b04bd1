import Conformance.Json.Reader
import Conformance.Proofs.Json.Spelling
import Conformance.Proofs.Text.Search

/-! # Reading numbers

A number is read to its end, if what follows it could not be a part of it. Digits without a fraction
and an exponent give back the integer that they were printed for.
-/

namespace Conformance.Json

open Conformance.Text (run? run?_eq_some_iff)

/-- A character that is never a part of a number after its sign. -/
def EndsNumber (c : Char) : Prop := c.isDigit = false ∧ c ≠ '.' ∧ c ≠ 'e' ∧ c ≠ 'E'

instance : DecidablePred EndsNumber := fun c =>
  inferInstanceAs (Decidable (c.isDigit = false ∧ c ≠ '.' ∧ c ≠ 'e' ∧ c ≠ 'E'))

/-- What may follow a number without being taken for a part of it. -/
def Ends (rest : List Char) : Prop := ∀ c ∈ rest.head?, EndsNumber c

theorem readDigits_append {whole rest : List Char} (isWhole : Whole whole)
    (stop : ∀ c ∈ rest.head?, c.isDigit = false) :
    readDigits (whole ++ rest) = some (whole, rest) := by
  have run : run? Char.isDigit (whole ++ rest) = some (whole, rest) :=
    run?_eq_some_iff.mpr ⟨rfl, isWhole.digits.1, isWhole.digits.2, stop⟩
  unfold readDigits
  rw [run]
  split
  · next c more found =>
    obtain ⟨rfl, -⟩ := Prod.mk.inj (Option.some.inj found)
    exact absurd rfl (isWhole.leading _ _)
  · rfl

theorem Ends.stop {rest : List Char} (ends : Ends rest) : ∀ c ∈ rest.head?, c.isDigit = false :=
  fun c among => (ends c among).1

theorem run?_digits {places rest : List Char} (digits : Digits places)
    (stop : ∀ c ∈ rest.head?, c.isDigit = false) :
    run? Char.isDigit (places ++ rest) = some (places, rest) :=
  run?_eq_some_iff.mpr ⟨rfl, digits.1, digits.2, stop⟩

theorem Digits.exists_cons {places : List Char} (digits : Digits places) :
    ∃ c rest, places = c :: rest ∧ c.isDigit = true := by
  obtain ⟨c, rest, rfl⟩ := List.exists_cons_of_ne_nil digits.1
  exact ⟨c, rest, rfl, digits.2 c List.mem_cons_self⟩

theorem readFraction_ends {rest : List Char} (ends : Ends rest) :
    readFraction rest = some ([], rest) := by
  cases rest with
  | nil => rfl
  | cons c rest =>
    obtain ⟨-, point, lower, upper⟩ := ends c rfl
    simp [readFraction, point, lower, upper]

theorem readFraction_bare {e : Char} {places rest : List Char} (letter : e = 'e' ∨ e = 'E')
    (digits : Digits places) (ends : Ends rest) :
    readFraction (e :: (places ++ rest)) = some (e :: places, rest) := by
  have run := run?_digits digits ends.stop
  obtain ⟨c, more, rfl, digit⟩ := digits.exists_cons
  have plus : c ≠ '+' := by rintro rfl; cases digit
  have minus : c ≠ '-' := by rintro rfl; cases digit
  rcases letter with rfl | rfl <;>
    simpa [readFraction, plus, minus] using run

theorem readFraction_signed {e sign : Char} {places rest : List Char} (letter : e = 'e' ∨ e = 'E')
    (mark : sign = '+' ∨ sign = '-') (digits : Digits places) (ends : Ends rest) :
    readFraction (e :: sign :: (places ++ rest)) = some (e :: sign :: places, rest) := by
  have run := run?_digits digits ends.stop
  rcases letter with rfl | rfl <;> rcases mark with rfl | rfl <;>
    simp [readFraction, run]

/-- What follows a point is read apart from the places after it. -/
theorem readFraction_point {places rest : List Char} (digits : Digits places)
    (stop : ∀ c ∈ rest.head?, c.isDigit = false ∧ c ≠ '.') :
    readFraction ('.' :: (places ++ rest)) =
      (readFraction rest).map fun read => ('.' :: (places ++ read.1), read.2) := by
  have run := run?_digits digits fun c among => (stop c among).1
  rcases rest with _ | ⟨e, rest⟩
  · simp only [List.append_nil] at run ⊢
    simp [readFraction, run]
  · have notPoint := (stop e rfl).2
    by_cases letter : e = 'e' ∨ e = 'E'
    · rcases rest with _ | ⟨sign, rest⟩
      · simp [readFraction, run, notPoint, letter]
      · by_cases mark : sign = '+' ∨ sign = '-'
        · simp [readFraction, run, notPoint, letter, mark, Function.comp_def]
        · simp [readFraction, run, notPoint, letter, mark, Function.comp_def]
    · simp [readFraction, run, notPoint, letter]

theorem readFraction_exponent {exponent rest : List Char} (isExponent : Exponent exponent)
    (ends : Ends rest) : readFraction (exponent ++ rest) = some (exponent, rest) := by
  cases isExponent with
  | none => exact readFraction_ends ends
  | bare letter digits => exact readFraction_bare letter digits ends
  | signed letter mark digits => exact readFraction_signed letter mark digits ends

theorem Exponent.stop {exponent rest : List Char} (isExponent : Exponent exponent)
    (ends : Ends rest) : ∀ c ∈ (exponent ++ rest).head?, c.isDigit = false ∧ c ≠ '.' := by
  intro c first
  cases isExponent with
  | none => exact ⟨(ends c first).1, (ends c first).2.1⟩
  | bare letter _ =>
    obtain rfl := Option.some.inj first
    rcases letter with rfl | rfl <;> decide
  | signed letter _ _ =>
    obtain rfl := Option.some.inj first
    rcases letter with rfl | rfl <;> decide

theorem readFraction_append {fraction exponent rest : List Char} (isFraction : Fraction fraction)
    (isExponent : Exponent exponent) (ends : Ends rest) :
    readFraction (fraction ++ (exponent ++ rest)) = some (fraction ++ exponent, rest) := by
  have read := readFraction_exponent isExponent ends
  cases isFraction with
  | none => exact read
  | point digits =>
    rw [List.cons_append, readFraction_point digits (isExponent.stop ends), read]
    rfl

theorem Fraction.stop {fraction exponent rest : List Char} (isFraction : Fraction fraction)
    (isExponent : Exponent exponent) (ends : Ends rest) :
    ∀ c ∈ (fraction ++ (exponent ++ rest)).head?, c.isDigit = false := by
  cases isFraction with
  | none => exact fun c first => (isExponent.stop ends c first).1
  | point digits =>
    intro c first
    obtain rfl := Option.some.inj first
    rfl

theorem readNumber_unsigned {whole rest : List Char} (isWhole : Whole whole)
    (stop : ∀ c ∈ rest.head?, c.isDigit = false) :
    readNumber (whole ++ rest) = (readFraction rest).map fun read =>
      if read.1.isEmpty then (.integer (digitsValue whole), read.2)
      else (.decimal (String.ofList (whole ++ read.1)), read.2) := by
  obtain ⟨c, more, rfl, digit⟩ := isWhole.digits.exists_cons
  have minus : c ≠ '-' := by rintro rfl; cases digit
  have read := readDigits_append isWhole stop
  rw [List.cons_append] at read ⊢
  cases fraction : readFraction rest with
  | none => simp [readNumber, minus, read, fraction]
  | some found =>
    by_cases empty : found.1 = []
    · simp [readNumber, minus, read, fraction, empty]
    · simp [readNumber, minus, read, fraction, empty, String.append_assoc]

theorem readNumber_signed {whole rest : List Char} (isWhole : Whole whole)
    (stop : ∀ c ∈ rest.head?, c.isDigit = false) :
    readNumber ('-' :: (whole ++ rest)) = (readFraction rest).map fun read =>
      if read.1.isEmpty ∧ whole ≠ ['0'] then (.integer (-digitsValue whole), read.2)
      else (.decimal (String.ofList ('-' :: (whole ++ read.1))), read.2) := by
  have read := readDigits_append isWhole stop
  cases fraction : readFraction rest with
  | none => simp [readNumber, read, fraction]
  | some found =>
    by_cases empty : found.1 = [] ∧ whole ≠ ['0']
    · simp [readNumber, read, fraction, empty]
    · simp [readNumber, read, fraction, empty]

theorem readNumber_decimal {text rest : List Char} (number : Decimal text) (ends : Ends rest) :
    readNumber (text ++ rest) = some (.decimal (String.ofList text), rest) := by
  cases number with
  | @scaled sign whole fraction exponent signed isWhole isFraction isExponent inexact =>
    have read := readFraction_append isFraction isExponent ends
    have stop := isFraction.stop isExponent ends
    have scaled : (fraction ++ exponent).isEmpty = false := by
      rwa [List.isEmpty_eq_false_iff]
    simp only [List.append_assoc]
    rcases signed with rfl | rfl
    · rw [List.nil_append, readNumber_unsigned isWhole stop, read, Option.map_some, scaled]
      rfl
    · rw [List.singleton_append, readNumber_signed isWhole stop, read, Option.map_some, scaled,
        if_neg (by simp)]
      rfl
  | negativeZero =>
    have zero : Whole ['0'] := ⟨⟨List.cons_ne_nil _ _, by simp⟩, by simp⟩
    have read := readNumber_signed zero ends.stop
    rw [readFraction_ends ends, Option.map_some, if_neg (by simp)] at read
    exact read

theorem digitsValue_eq (digits : List Char) :
    digitsValue digits = Nat.ofDigitChars 10 digits 0 := by
  simp [digitsValue, Nat.ofDigitChars_eq_foldl, Nat.mul_comm]

theorem digitsValue_toDigits (n : Nat) : digitsValue (Nat.toDigits 10 n) = n := by
  rw [digitsValue_eq, Nat.ofDigitChars_ten_toDigits]

theorem toDigits_ne_zero_cons (n : Nat) (c : Char) (rest : List Char) :
    Nat.toDigits 10 n ≠ '0' :: c :: rest := by
  induction n using Nat.strongRecOn generalizing c rest with
  | ind n ih =>
    intro digits
    rw [Nat.toDigits_eq_if (by decide)] at digits
    split at digits
    · simp at digits
    · next large =>
      obtain ⟨d, more, front⟩ :=
        List.exists_cons_of_ne_nil (Nat.toDigits_ne_nil (n := n / 10) (b := 10))
      rw [front] at digits
      obtain ⟨rfl, -⟩ := List.cons.inj digits
      rcases more with _ | ⟨c', more⟩
      · have value := digitsValue_toDigits (n / 10)
        rw [front] at value
        have zero : n / 10 = 0 := value.symm
        omega
      · exact ih (n / 10) (by omega) c' more front

theorem whole_toDigits (n : Nat) : Whole (Nat.toDigits 10 n) :=
  ⟨⟨Nat.toDigits_ne_nil, fun _ => Nat.isDigit_of_mem_toDigits (by decide) (by decide)⟩,
    toDigits_ne_zero_cons n⟩

theorem toList_toString_int (n : Int) :
    (∃ m : Nat, n = m ∧ (toString n).toList = Nat.toDigits 10 m) ∨
      ∃ m : Nat, n = -m ∧ m ≠ 0 ∧ (toString n).toList = '-' :: Nat.toDigits 10 m := by
  cases n with
  | ofNat m => exact .inl ⟨m, rfl, Nat.toList_repr⟩
  | negSucc m =>
    refine .inr ⟨m + 1, rfl, Nat.succ_ne_zero m, ?_⟩
    rw [Int.toString_eq_repr, Int.repr, String.toList_append, Nat.succ_eq_add_one,
      Nat.toList_repr]
    rfl

theorem readNumber_integer (n : Int) {rest : List Char} (ends : Ends rest) :
    readNumber ((toString n).toList ++ rest) = some (.integer n, rest) := by
  rcases toList_toString_int n with ⟨m, rfl, text⟩ | ⟨m, rfl, positive, text⟩
  · rw [text, readNumber_unsigned (whole_toDigits m) ends.stop, readFraction_ends ends]
    simp [digitsValue_toDigits]
  · have notZero : Nat.toDigits 10 m ≠ ['0'] := by
      intro digits
      have value := digitsValue_toDigits m
      rw [digits] at value
      exact positive value.symm
    rw [text, List.cons_append, readNumber_signed (whole_toDigits _) ends.stop,
      readFraction_ends ends]
    simp [digitsValue_toDigits, notZero]

def StartsNumber (c : Char) : Prop := c.isDigit = true ∨ c = '-'

theorem exists_cons_integer (n : Int) :
    ∃ c rest, (toString n).toList = c :: rest ∧ StartsNumber c := by
  rcases toList_toString_int n with ⟨m, -, text⟩ | ⟨m, -, -, text⟩
  · obtain ⟨c, rest, digits, digit⟩ := (whole_toDigits m).digits.exists_cons
    exact ⟨c, rest, text.trans digits, .inl digit⟩
  · exact ⟨'-', _, text, .inr rfl⟩

theorem Decimal.exists_cons {text : List Char} (number : Decimal text) :
    ∃ c rest, text = c :: rest ∧ StartsNumber c := by
  cases number with
  | scaled signed isWhole _ _ _ =>
    obtain ⟨c, more, rfl, digit⟩ := isWhole.digits.exists_cons
    rcases signed with rfl | rfl
    · exact ⟨c, _, rfl, .inl digit⟩
    · exact ⟨'-', _, rfl, .inr rfl⟩
  | negativeZero => exact ⟨'-', _, rfl, .inr rfl⟩

end Conformance.Json

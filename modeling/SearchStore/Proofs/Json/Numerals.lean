import SearchStore.Json.Lexer
import Mathlib.Data.List.TakeWhile

/-!
Texts of numbers, read again. A numeral ends where no digit, point or exponent goes on, so it is read
the same with anything else behind it. The text of an integer is read as that integer.
-/

set_option autoImplicit false

namespace SearchStore.Json

-- What can stand behind a numeral without being taken for a part of it.
def Apart (rest : List Char) : Prop :=
  ∀ c ∈ rest.head?, isDigit c = false ∧ c ≠ '.' ∧ c ≠ 'e' ∧ c ≠ 'E'

variable {s rest after digits : List Char}

theorem taken_digits (apart : Apart rest) :
    takeDigits (s ++ rest) = ((takeDigits s).1, (takeDigits s).2 ++ rest) := by
  induction s with
  | nil =>
      cases rest with
      | nil => rfl
      | cons c later => simp [takeDigits, (apart c rfl).1]
  | cons c later ih =>
      simp only [takeDigits, Prod.mk.injEq] at ih
      by_cases digit : isDigit c = true
      · simp [takeDigits, digit, ih]
      · simp [takeDigits, digit]

theorem whole_before (apart : Apart rest) (scanned : scanWhole s = some (digits, after)) :
    scanWhole (s ++ rest) = some (digits, after ++ rest) := by
  cases s with
  | nil => cases scanned
  | cons c later =>
      by_cases zero : c = '0'
      · subst zero
        cases scanned
        rfl
      · have first (t : List Char) : scanWhole (c :: t) = if isDigit c then some (takeDigits (c :: t)) else none := by
          rw [scanWhole]
          exact zero
        rw [first] at scanned
        rw [List.cons_append, first]
        by_cases digit : isDigit c = true
        · rw [if_pos digit] at scanned ⊢
          rw [← List.cons_append, taken_digits apart, Option.some.inj scanned]
        · rw [if_neg digit] at scanned
          cases scanned

theorem fraction_before (apart : Apart rest) {fraction : Option (List Char)}
    (scanned : scanFraction s = some (fraction, after)) : scanFraction (s ++ rest) = some (fraction, after ++ rest) := by
  cases s with
  | nil =>
      cases scanned
      cases rest with
      | nil => rfl
      | cons c later => simp [scanFraction, (apart c rfl).2.1]
  | cons c later =>
      by_cases point : c = '.'
      · subst point
        simp only [scanFraction, List.cons_append, taken_digits apart] at scanned ⊢
        by_cases none : (takeDigits later).1.isEmpty = true
        · rw [if_pos none] at scanned
          cases scanned
        · rw [if_neg none] at scanned ⊢
          cases scanned
          rfl
      · have absent (t : List Char) : scanFraction (c :: t) = some (none, c :: t) := by
          rw [scanFraction]
          rintro later ⟨⟩
          exact point rfl
        rw [absent] at scanned
        cases scanned
        exact absent _

def signed : List Char → Int × List Char
  | '+' :: rest => (1, rest)
  | '-' :: rest => (-1, rest)
  | s => (1, s)

theorem signed_before (filled : s ≠ []) : signed (s ++ rest) = ((signed s).1, (signed s).2 ++ rest) := by
  cases s with
  | nil => exact absurd rfl filled
  | cons c later =>
      by_cases plus : c = '+'
      · subst plus
        rfl
      · by_cases minus : c = '-'
        · subst minus
          rfl
        · simp [signed, plus, minus]

theorem scanned_exponent {c : Char} (mark : c = 'e' ∨ c = 'E') (s : List Char) : scanExponent (c :: s) =
    if (takeDigits (signed s).2).1.isEmpty then none
    else some (some ((signed s).1 * (takeDigits (signed s).2).1.foldl (fun n d => 10 * n + Numeral.digitValue d) 0),
      (takeDigits (signed s).2).2) := by
  unfold scanExponent
  dsimp only
  rw [if_pos mark]
  split
  · rfl
  · rfl
  · rename_i plus minus
    have unsigned : signed s = (1, s) := by
      rw [signed]
      · exact plus
      · exact minus
    rw [unsigned]

theorem exponent_before (apart : Apart rest) {exponent : Option Int}
    (scanned : scanExponent s = some (exponent, after)) : scanExponent (s ++ rest) = some (exponent, after ++ rest) := by
  cases s with
  | nil =>
      cases scanned
      cases rest with
      | nil => rfl
      | cons c later => simp [scanExponent, (apart c rfl).2.2]
  | cons c later =>
      by_cases mark : c = 'e' ∨ c = 'E'
      · have filled : later ≠ [] := by
          rintro rfl
          simp [scanned_exponent mark, signed, takeDigits] at scanned
        rw [scanned_exponent mark] at scanned
        rw [List.cons_append, scanned_exponent mark, signed_before filled]
        dsimp only
        rw [taken_digits apart]
        by_cases none : (takeDigits (signed later).2).1.isEmpty = true
        · rw [if_pos none] at scanned
          cases scanned
        · rw [if_neg none] at scanned ⊢
          cases scanned
          rfl
      · simp only [scanExponent, List.cons_append, if_neg mark] at scanned ⊢
        cases scanned
        rfl

def scanMagnitude (negative : Bool) (s : List Char) : Option (Numeral × List Char) := do
  let (whole, s) ← scanWhole s
  let (fraction, s) ← scanFraction s
  let (exponent, s) ← scanExponent s
  some (⟨negative, whole, fraction, exponent⟩, s)

theorem scanned_negative (s : List Char) : scanNumeral ('-' :: s) = scanMagnitude true s := rfl

theorem scanned_positive (unsigned : ∀ c ∈ s.head?, c ≠ '-') : scanNumeral s = scanMagnitude false s := by
  cases s with
  | nil => rfl
  | cons c later => simp [scanNumeral, scanMagnitude, unsigned c rfl]

theorem magnitude_before (apart : Apart rest) {negative : Bool} {x : Numeral}
    (scanned : scanMagnitude negative s = some (x, after)) :
    scanMagnitude negative (s ++ rest) = some (x, after ++ rest) := by
  obtain ⟨⟨whole, afterWhole⟩, first, scanned⟩ := Option.bind_eq_some_iff.mp scanned
  obtain ⟨⟨fraction, afterFraction⟩, second, scanned⟩ := Option.bind_eq_some_iff.mp scanned
  obtain ⟨⟨exponent, afterExponent⟩, third, scanned⟩ := Option.bind_eq_some_iff.mp scanned
  cases scanned
  simp only [scanMagnitude, whole_before apart first, fraction_before apart second, exponent_before apart third,
    Option.bind_eq_bind, Option.bind_some]

theorem numeral_before (apart : Apart rest) {x : Numeral} (scanned : scanNumeral s = some (x, after)) :
    scanNumeral (s ++ rest) = some (x, after ++ rest) := by
  cases s with
  | nil => cases scanned
  | cons c later =>
      by_cases minus : c = '-'
      · subst minus
        exact magnitude_before apart scanned
      · have unsigned (t : List Char) : scanNumeral (c :: t) = scanMagnitude false (c :: t) :=
          scanned_positive fun d first => by
            cases first
            exact minus
        rw [unsigned] at scanned
        rw [List.cons_append, unsigned]
        exact magnitude_before apart scanned

theorem is_digit_iff (c : Char) : isDigit c = c.isDigit := by
  rw [Bool.eq_iff_iff, Char.isDigit_iff_toNat, isDigit, Bool.and_eq_true, decide_eq_true_eq, decide_eq_true_eq]

theorem digits_written {n : Nat} {c : Char} (member : c ∈ Numeric.digitChars n) : isDigit c = true := by
  rw [is_digit_iff]
  exact Nat.isDigit_of_mem_toDigits (by decide) (by decide) member

theorem digits_filled (n : Nat) : Numeric.digitChars n ≠ [] := Nat.toDigits_ne_nil

theorem digits_value (n : Nat) : (Numeric.digitChars n).foldl (fun n d => 10 * n + Numeral.digitValue d) 0 = n :=
  Nat.ofDigitChars_ten_toDigits

theorem all_digits (all : ∀ c ∈ digits, isDigit c = true) : takeDigits digits = (digits, []) := by
  rw [takeDigits, List.takeWhile_eq_self_iff.mpr all, List.dropWhile_eq_nil_iff.mpr all]

theorem leading_zero {n : Nat} (zero : (Numeric.digitChars n).head? = some '0') : n = 0 := by
  induction n using Nat.strongRecOn with
  | ind n ih =>
      rw [Numeric.digitChars] at zero
      by_cases small : n < 10
      · rw [Nat.toDigits_of_lt_base small] at zero
        exact Nat.digitChar_eq_zero.mp (Option.some.inj zero)
      · rw [Nat.toDigits_of_base_le (by decide) (by omega), List.head?_append] at zero
        obtain ⟨first, led⟩ : ∃ c, (Nat.toDigits 10 (n / 10)).head? = some c :=
          ⟨_, List.head?_eq_some_head Nat.toDigits_ne_nil⟩
        rw [led, Option.some_or] at zero
        have none := ih (n / 10) (by omega) (led.trans zero)
        omega

theorem whole_of_digits (n : Nat) : scanWhole (Numeric.digitChars n) = some (Numeric.digitChars n, []) := by
  cases written : Numeric.digitChars n with
  | nil => exact absurd written (digits_filled n)
  | cons c later =>
      have all : ∀ d ∈ c :: later, isDigit d = true := fun d member => digits_written (written ▸ member)
      by_cases zero : c = '0'
      · subst zero
        have nothing : n = 0 := leading_zero (by rw [written]; rfl)
        subst nothing
        cases written
        rfl
      · rw [scanWhole, if_pos (all c (List.mem_cons_self ..)), all_digits all]
        exact zero

theorem magnitude_of_digits (negative : Bool) (n : Nat) :
    scanMagnitude negative (Numeric.digitChars n) = some (⟨negative, Numeric.digitChars n, none, none⟩, []) := by
  rw [scanMagnitude, whole_of_digits]
  rfl

theorem numeral_of_integer (i : Int) : scanNumeral (Number.printInt i) =
    some (⟨decide (i < 0), Numeric.digitChars i.natAbs, none, none⟩, []) := by
  rw [Number.printInt]
  by_cases negative : i < 0
  · rw [if_pos negative, scanned_negative, magnitude_of_digits, decide_eq_true negative]
  · rw [if_neg negative, scanned_positive, magnitude_of_digits, decide_eq_false negative]
    rintro c first rfl
    have digit := digits_written (List.mem_of_mem_head? first)
    cases digit

namespace Number

def reread (n : Number) : Option Number :=
  match scanNumeral n.print with
  | some (x, []) => x.value?
  | _ => none

theorem reread_integer (i : Int) (fits : leastInteger ≤ i ∧ i ≤ greatestInteger) :
    reread (.integer i fits) = some (.integer i fits) := by
  have whole : (⟨decide (i < 0), Numeric.digitChars i.natAbs, none, none⟩ : Numeral).integer? = some i := by
    simp only [Numeral.integer?, Option.isSome_none, Bool.or_self, Bool.false_eq_true, ↓reduceIte, digits_value,
      decide_eq_true_eq]
    by_cases negative : i < 0
    · rw [if_pos negative, if_neg (by omega)]
      exact congrArg some (by omega)
    · rw [if_neg negative]
      exact congrArg some (by omega)
  rw [reread, print, numeral_of_integer]
  simp only [Numeral.value?, whole, Option.bind_some, ofInt?, dif_pos fits]

theorem scanned_of_reread {n m : Number} (read : n.reread = some m) :
    ∃ x, scanNumeral n.print = some (x, []) ∧ x.value? = some m := by
  rw [reread] at read
  split at read
  · rename_i x scanned
    exact ⟨x, scanned, read⟩
  · cases read

end Number

end SearchStore.Json

import Mathlib.Data.List.Basic
import SearchStore.Sql.Statement

/-!
How the text of a condition falls into lexemes: words and parameters, operators, and marks that stand
alone. Blanks part lexemes and belong to none.
-/

set_option autoImplicit false

namespace SearchStore.Sql

abbrev Lexeme := List Char

inductive CharacterClass where
  | blank
  | mark
  | operator
  | letter
deriving DecidableEq

def classOf (c : Char) : CharacterClass :=
  if c = ' ' then .blank
  else if c = '(' ∨ c = ')' ∨ c = ',' then .mark
  else if c ∈ ['+', '-', '*', '/', '<', '>', '=', '~', '!', '@', '#', '%', '^', '&', '|', '?', ':'] then .operator
  else .letter

def extend (c : Char) : List Lexeme → List Lexeme
  | [] => [[c]]
  | run :: later => (c :: run) :: later

-- Neighbours of one class belong together, blanks and marks apart.
def lexemes : List Char → List Lexeme
  | [] => []
  | c :: rest =>
      if classOf c = .blank then lexemes rest
      else if classOf c = .mark then [c] :: lexemes rest
      else if rest.head?.any (classOf · = classOf c) then extend c (lexemes rest)
      else [c] :: lexemes rest

def Parted (rest : List Char) : Prop := rest.head?.all (classOf · ≠ .letter)

theorem lexemes_word {word : Lexeme} {rest : List Char} (filled : word ≠ []) (letters : ∀ c ∈ word, classOf c = .letter)
    (parted : Parted rest) : lexemes (word ++ rest) = word :: lexemes rest := by
  induction word with
  | nil => exact absurd rfl filled
  | cons c later ih =>
      obtain ⟨letter, others⟩ := List.forall_mem_cons.mp letters
      cases later with
      | nil =>
          have alone : rest.head?.any (classOf · = .letter) = false := by
            cases rest with
            | nil => rfl
            | cons d more => simpa [Parted] using parted
          simp [lexemes, letter, alone]
      | cons d more =>
          have together : classOf d = .letter := others d (List.mem_cons_self ..)
          rw [List.cons_append, lexemes, letter, ih (List.cons_ne_nil d more) others]
          simp [together, extend]

def placeholder (n : Nat) : Lexeme := '$' :: (toString n).toList

def IsPlaceholder (lexeme : Lexeme) : Prop := lexeme.head? = some '$'

instance (lexeme : Lexeme) : Decidable (IsPlaceholder lexeme) := inferInstanceAs (Decidable (_ = _))

def placeholders (ls : List Lexeme) : List Lexeme := ls.filter fun l => decide (IsPlaceholder l)

theorem digit_letter {c : Char} (digit : c.isDigit = true) : classOf c = .letter := by
  have range := Char.isDigit_iff_toNat.mp digit
  have apart (d : Char) (outside : d.toNat < 48 ∨ 57 < d.toNat) : c ≠ d := by
    rintro rfl
    have low : '0'.toNat = 48 := rfl
    have high : '9'.toNat = 57 := rfl
    omega
  simp [classOf, apart]

end SearchStore.Sql

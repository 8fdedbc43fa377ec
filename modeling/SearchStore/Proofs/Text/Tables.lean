import SearchStore.Proofs.Text.Wildcards

/-!
The table that decides whether a pattern meets a text, cell by cell. Each cell of a row is read
off the cell before it and two cells of the row above, and none of these reads goes astray. The
pattern that a wildcard becomes has no backslash without a character to escape.
-/

set_option autoImplicit false

namespace SearchStore.Pattern

variable {text : List Char} {row : List Bool}

def rowOf (text : List Char) (pieces : List Piece) : List Bool :=
  pieces.foldl (advance text) (true :: List.replicate text.length false)

def cell? (text : List Char) (row below : List Bool) : Piece → Nat → Option Bool
  | .anyRun, 0 => row[0]?
  | .anyRun, j + 1 => do return (← row[j + 1]?) || (← below[j]?)
  | .anyOne, 0 => some false
  | .anyOne, j + 1 => row[j]?
  | .literal _, 0 => some false
  | .literal c, j + 1 => do return c == (← text[j]?) && (← row[j]?)

theorem row_of_snoc (text : List Char) (pieces : List Piece) (piece : Piece) :
    rowOf text (pieces ++ [piece]) = advance text (rowOf text pieces) piece := List.foldl_concat ..

theorem row_length (text : List Char) (pieces : List Piece) : (rowOf text pieces).length = text.length + 1 :=
  (rows_advance pieces (row_start text)).full

theorem spread_next (marked : Bool) {j : Nat} (inside : j + 1 < row.length) :
    ∃ above before, row[j + 1]? = some above ∧ (spread marked row)[j]? = some before ∧
      (spread marked row)[j + 1]? = some (above || before) := by
  induction row generalizing marked j with
  | nil => simp at inside
  | cons b rest ih =>
      cases j with
      | zero =>
          cases rest with
          | nil => simp at inside
          | cons c later => exact ⟨c, marked || b, rfl, rfl, congrArg some (Bool.or_comm ..)⟩
      | succ j =>
          simp only [spread, List.getElem?_cons_succ]
          exact ih (marked || b) (by simpa using inside)

theorem cell_of_advance (full : row.length = text.length + 1) (piece : Piece) {j : Nat} (inside : j ≤ text.length) :
    ∃ b, cell? text row (advance text row piece) piece j = some b ∧ (advance text row piece)[j]? = some b := by
  cases j with
  | zero =>
      cases row with
      | nil => simp at full
      | cons first rest => cases piece <;> simp [cell?, advance, spread]
  | succ j =>
      obtain ⟨c, here⟩ : ∃ c, text[j]? = some c := ⟨text[j], List.getElem?_eq_getElem inside⟩
      have short : j < row.length := by omega
      obtain ⟨corner, read⟩ : ∃ b, row[j]? = some b := ⟨row[j], List.getElem?_eq_getElem short⟩
      cases piece with
      | anyRun =>
          have reach : j + 1 < row.length := by omega
          obtain ⟨above, before, up, left, next⟩ := spread_next false reach
          exact ⟨above || before, by simp [cell?, advance, up, left], next⟩
      | anyOne =>
          refine ⟨corner, read, ?_⟩
          rw [advance, List.getElem?_cons_succ, List.getElem?_take, if_pos (Nat.lt_of_succ_le inside), read]
      | literal d =>
          refine ⟨d == c && corner, by simp [cell?, here, read], ?_⟩
          have pair : (text.zip row)[j]? = some (c, corner) := List.getElem?_zip_eq_some.mpr ⟨here, read⟩
          rw [advance, List.getElem?_cons_succ, List.getElem?_map, pair]
          rfl

-- Every cell is what its reads make it, and the last cell of the last row is the answer.
structure Tabulated (pieces : List Piece) (text : List Char) : Prop where
  cells : ∀ used piece later, pieces = used ++ piece :: later → ∀ j ≤ text.length,
    ∃ b, cell? text (rowOf text used) (rowOf text (used ++ [piece])) piece j = some b ∧
      (rowOf text (used ++ [piece]))[j]? = some b
  answer : (rowOf text pieces)[text.length]? = some (matchPieces pieces text)

theorem tabulated (pieces : List Piece) (text : List Char) : Tabulated pieces text where
  cells used piece _ _ j inside := by
    rw [row_of_snoc]
    exact cell_of_advance (row_length text used) piece inside
  answer := by
    have held : text.length < (rowOf text pieces).length := by
      rw [row_length]
      exact Nat.lt_succ_self _
    have last : (rowOf text pieces).getLast? = some ((rowOf text pieces)[text.length]) := by
      rw [List.getLast?_eq_getElem?, row_length, Nat.add_sub_cancel, List.getElem?_eq_getElem held]
    have shown : matchPieces pieces text = (rowOf text pieces).getLast?.getD false := rfl
    rw [shown, last, Option.getD_some, List.getElem?_eq_getElem held]

-- Each backslash stands before a character that has a meaning of its own without it.
inductive Escaped : List Char → Prop where
  | nil : Escaped []
  | bare (c : Char) (rest : List Char) (plain : c ≠ '\\') (later : Escaped rest) : Escaped (c :: rest)
  | pair (c : Char) (rest : List Char) (special : c = '%' ∨ c = '_' ∨ c = '\\') (later : Escaped rest) :
      Escaped ('\\' :: c :: rest)

theorem translated_escaped (wildcard : List Char) : Escaped (wildcard.flatMap likeOf) := by
  induction wildcard with
  | nil => exact .nil
  | cons c later ih =>
      rw [List.flatMap_cons, likeOf]
      by_cases any : c = '*'
      · rw [if_pos any]
        exact .bare _ _ (by decide) ih
      · by_cases one : c = '?'
        · rw [if_neg any, if_pos one]
          exact .bare _ _ (by decide) ih
        · by_cases special : c = '%' ∨ c = '_' ∨ c = '\\'
          · rw [if_neg any, if_neg one, if_pos special]
            exact .pair c _ special ih
          · rw [if_neg any, if_neg one, if_neg special]
            exact .bare c _ (fun slash => special (Or.inr (Or.inr slash))) ih

/-- The pattern of a wildcard text matches what the text stands for and nothing else. The search reads no cell outside of its
rows, and the pattern ends in no escape. -/
theorem wildcards_match_exactly (wildcard text : String) :
    ((ofWildcard wildcard).accepts text = true ↔ Wildcard wildcard.toList text.toList) ∧
      Tabulated (pieces (ofWildcard wildcard).text) text.toList ∧ Escaped (ofWildcard wildcard).text := by
  refine ⟨wildcard_accepts_iff wildcard text, ?_, ?_⟩
  · exact tabulated _ _
  · exact translated_escaped wildcard.toList

example : (ofWildcard "*%?\\").accepts "a%_\\" = true ∧ (ofWildcard "*%?\\").accepts "a%\\" = false := by decide

end SearchStore.Pattern

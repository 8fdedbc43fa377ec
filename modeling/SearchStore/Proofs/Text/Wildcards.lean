import Mathlib.Data.List.Basic
import SearchStore.Text.Pattern

/-!
The texts a pattern stands for. Its pieces are met one after another, and a row of the table tells
which beginnings of a text the pieces so far can meet. A wildcard pattern becomes pieces that stand
for the same texts.
-/

set_option autoImplicit false

namespace SearchStore.Pattern

def Piece.Meets : Piece → List Char → Prop
  | .anyRun, _ => True
  | .anyOne, run => run.length = 1
  | .literal c, run => run = [c]

-- The text is cut into runs that the pieces meet one by one.
def Fits : List Piece → List Char → Prop
  | [], text => text = []
  | piece :: later, text => ∃ run rest, text = run ++ rest ∧ piece.Meets run ∧ Fits later rest

variable {pieces more : List Piece} {text : List Char} {row : List Bool}

theorem fits_append : Fits (pieces ++ more) text ↔ ∃ first rest, text = first ++ rest ∧ Fits pieces first ∧ Fits more rest := by
  induction pieces generalizing text with
  | nil =>
      constructor
      · intro fits
        exact ⟨[], text, rfl, rfl, fits⟩
      · rintro ⟨_, rest, rfl, rfl, fits⟩
        exact fits
  | cons piece later ih =>
      simp only [List.cons_append, Fits, ih]
      constructor
      · rintro ⟨run, _, rfl, meets, first, rest, rfl, fits, last⟩
        exact ⟨run ++ first, rest, (List.append_assoc ..).symm, ⟨run, first, rfl, meets, fits⟩, last⟩
      · rintro ⟨_, rest, rfl, ⟨run, first, rfl, meets, fits⟩, last⟩
        exact ⟨run, first ++ rest, List.append_assoc .., meets, first, rest, rfl, fits, last⟩

theorem fits_snoc {piece : Piece} : Fits (pieces ++ [piece]) text ↔
    ∃ first run, text = first ++ run ∧ Fits pieces first ∧ piece.Meets run := by
  simp [fits_append, Fits]

structure Row (pieces : List Piece) (text : List Char) (row : List Bool) : Prop where
  full : row.length = text.length + 1
  entry : ∀ j ≤ text.length, row[j]? = some true ↔ Fits pieces (text.take j)

theorem row_start (text : List Char) : Row [] text (true :: List.replicate text.length false) where
  full := by simp
  entry j bound := by
    cases j with
    | zero => simp [Fits]
    | succ j =>
        have filled : text.take (j + 1) ≠ [] := List.ne_nil_of_length_pos (by simp; omega)
        simp [Fits, filled, List.getElem?_replicate]

theorem spread_length (marked : Bool) (row : List Bool) : (spread marked row).length = row.length := by
  induction row generalizing marked with
  | nil => rfl
  | cons b rest ih => rw [spread, List.length_cons, List.length_cons, ih]

theorem spread_entry (marked : Bool) {j : Nat} (inside : j < row.length) :
    (spread marked row)[j]? = some true ↔ marked = true ∨ ∃ i ≤ j, row[i]? = some true := by
  induction row generalizing marked j with
  | nil => simp at inside
  | cons b rest ih =>
      cases j with
      | zero => simp [spread]
      | succ j =>
          rw [spread, List.getElem?_cons_succ, ih _ (by simpa using inside)]
          rw [Bool.or_eq_true]
          constructor
          · rintro ((here | here) | ⟨i, bound, there⟩)
            · exact Or.inl here
            · exact Or.inr ⟨0, Nat.zero_le _, congrArg some here⟩
            · exact Or.inr ⟨i + 1, Nat.succ_le_succ bound, there⟩
          · rintro (here | ⟨i, bound, there⟩)
            · exact Or.inl (Or.inl here)
            · cases i with
              | zero => exact Or.inl (Or.inr (Option.some.inj there))
              | succ i => exact Or.inr ⟨i, Nat.le_of_succ_le_succ bound, there⟩

theorem row_any_run (held : Row pieces text row) : Row (pieces ++ [.anyRun]) text (advance text row .anyRun) where
  full := by rw [advance, spread_length, held.full]
  entry j bound := by
    have inside : j < row.length := by rw [held.full]; omega
    rw [advance, spread_entry false inside, fits_snoc]
    constructor
    · rintro (none | ⟨i, earlier, met⟩)
      · cases none
      · have begun : text.take i = (text.take j).take i := by rw [List.take_take, Nat.min_eq_left earlier]
        refine ⟨text.take i, (text.take j).drop i, ?_, (held.entry i (Nat.le_trans earlier bound)).mp met, trivial⟩
        rw [begun, List.take_append_drop]
    · rintro ⟨first, rest, cut, met, _⟩
      have long := congrArg List.length cut
      simp only [List.length_take, List.length_append] at long
      have begun : text.take first.length = first := by
        have taken := congrArg (List.take first.length) cut
        rw [List.take_left, List.take_take, Nat.min_eq_left (by omega)] at taken
        exact taken
      refine Or.inr ⟨first.length, by omega, (held.entry _ (by omega)).mpr ?_⟩
      rwa [begun]

theorem row_one {wanted : Char → Prop} {piece : Piece} (held : Row pieces text row)
    (meets : ∀ run, piece.Meets run ↔ ∃ c, run = [c] ∧ wanted c) {next : List Bool} (full : next.length = text.length)
    (shifted : ∀ (j : Nat) (c : Char), text[j]? = some c → (next[j]? = some true ↔ wanted c ∧ row[j]? = some true)) :
    Row (pieces ++ [piece]) text (false :: next) where
  full := by rw [List.length_cons, full]
  entry j bound := by
    rw [fits_snoc]
    cases j with
    | zero =>
        constructor
        · rintro ⟨⟩
        · rintro ⟨first, run, cut, _, last⟩
          obtain ⟨c, rfl, _⟩ := (meets run).mp last
          simp at cut
    | succ j =>
        obtain ⟨c, here⟩ : ∃ c, text[j]? = some c := ⟨text[j], List.getElem?_eq_getElem bound⟩
        have split : text.take (j + 1) = text.take j ++ [c] := by rw [List.take_add_one, here]; rfl
        rw [List.getElem?_cons_succ, shifted j c here, held.entry j (by omega), split]
        constructor
        · rintro ⟨allowed, met⟩
          exact ⟨text.take j, [c], rfl, met, (meets [c]).mpr ⟨c, rfl, allowed⟩⟩
        · rintro ⟨first, run, cut, met, last⟩
          obtain ⟨d, rfl, allowed⟩ := (meets run).mp last
          obtain ⟨rfl, same⟩ := List.append_inj' cut rfl
          obtain rfl : c = d := by simpa using same
          exact ⟨allowed, met⟩

theorem row_advances (held : Row pieces text row) (piece : Piece) :
    Row (pieces ++ [piece]) text (advance text row piece) := by
  cases piece with
  | anyRun => exact row_any_run held
  | anyOne =>
      have meets (run : List Char) : Piece.anyOne.Meets run ↔ ∃ c, run = [c] ∧ True := by
        simp [Piece.Meets, List.length_eq_one_iff]
      refine row_one held meets (by simp [held.full]) ?_
      intro j c here
      have inside := (List.getElem?_eq_some_iff.mp here).1
      rw [List.getElem?_take, if_pos inside, true_and]
  | literal c =>
      have meets (run : List Char) : (Piece.literal c).Meets run ↔ ∃ d, run = [d] ∧ d = c := by simp [Piece.Meets]
      refine row_one held meets (by simp [held.full]) ?_
      intro j d here
      rw [List.getElem?_map, Option.map_eq_some_iff]
      constructor
      · rintro ⟨pair, both, allowed⟩
        obtain ⟨first, second⟩ := List.getElem?_zip_eq_some.mp both
        rw [here, Option.some.injEq] at first
        simp only [Bool.and_eq_true, beq_iff_eq] at allowed
        exact ⟨first.trans allowed.1.symm, second.trans (congrArg some allowed.2)⟩
      · rintro ⟨rfl, met⟩
        exact ⟨(d, true), List.getElem?_zip_eq_some.mpr ⟨here, met⟩, by simp⟩

theorem rows_advance (more : List Piece) (held : Row pieces text row) :
    Row (pieces ++ more) text (more.foldl (advance text) row) := by
  induction more generalizing pieces row with
  | nil => simpa using held
  | cons piece later ih => simpa using ih (row_advances held piece)

theorem match_pieces_iff (pieces : List Piece) (text : List Char) : matchPieces pieces text = true ↔ Fits pieces text := by
  have held : Row pieces text (pieces.foldl (advance text) (true :: List.replicate text.length false)) := by
    simpa using rows_advance pieces (row_start text)
  have last := held.entry text.length (Nat.le_refl _)
  rw [List.take_length] at last
  rw [← last, matchPieces, List.getLast?_eq_getElem?, held.full, Nat.add_sub_cancel]
  cases (pieces.foldl (advance text) (true :: List.replicate text.length false))[text.length]? <;> simp

-- What a character of a wildcard pattern stands for: `*` for any run, `?` for any one, others for
-- themselves.
def StandsFor (c : Char) (run : List Char) : Prop :=
  if c = '*' then True else if c = '?' then run.length = 1 else run = [c]

def Wildcard : List Char → List Char → Prop
  | [], text => text = []
  | c :: later, text => ∃ run rest, text = run ++ rest ∧ StandsFor c run ∧ Wildcard later rest

def pieceOf (c : Char) : Piece := if c = '*' then .anyRun else if c = '?' then .anyOne else .literal c

theorem piece_meets (c : Char) (run : List Char) : (pieceOf c).Meets run ↔ StandsFor c run := by
  rw [pieceOf, StandsFor]
  by_cases any : c = '*'
  · rw [if_pos any, if_pos any, Piece.Meets]
  · rw [if_neg any, if_neg any]
    by_cases one : c = '?'
    · rw [if_pos one, if_pos one, Piece.Meets]
    · rw [if_neg one, if_neg one, Piece.Meets]

theorem pieces_of_wildcard (wildcard : List Char) : Pattern.pieces (wildcard.flatMap likeOf) = wildcard.map pieceOf := by
  induction wildcard with
  | nil => rfl
  | cons c later ih =>
      rw [List.flatMap_cons, List.map_cons, ← ih]
      by_cases any : c = '*'
      · simp [likeOf, pieceOf, any, Pattern.pieces]
      · by_cases one : c = '?'
        · simp [likeOf, pieceOf, one, Pattern.pieces]
        · by_cases special : c = '%' ∨ c = '_' ∨ c = '\\'
          · simp [likeOf, pieceOf, any, one, special, Pattern.pieces]
          · simp only [likeOf, pieceOf, any, one, special, ↓reduceIte, List.singleton_append]
            rw [Pattern.pieces] <;> grind

theorem fits_wildcard (wildcard text : List Char) : Fits (wildcard.map pieceOf) text ↔ Wildcard wildcard text := by
  induction wildcard generalizing text with
  | nil => rfl
  | cons c later ih => simp only [List.map_cons, Fits, Wildcard, piece_meets, ih]

theorem wildcard_accepts_iff (wildcard text : String) :
    (ofWildcard wildcard).accepts text = true ↔ Wildcard wildcard.toList text.toList := by
  rw [accepts, match_pieces_iff, ofWildcard, pieces_of_wildcard, fits_wildcard]

end SearchStore.Pattern

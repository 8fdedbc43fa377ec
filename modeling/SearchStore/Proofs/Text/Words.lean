import Mathlib.Data.List.Basic
import SearchStore.Text.Words

/-!
A text is cut into words in one way only: stretches without a letter or digit, and between them words
that are as long as they can be. The words of two texts, one behind the other, are the words of each,
unless a word would run across the border.
-/

set_option autoImplicit false

namespace SearchStore.Text

variable {p : Char → Bool}

-- The words in a text with the gaps around them; no word goes on where it ends.
inductive Cut (p : Char → Bool) : List Char → List (List Char) → Prop where
  | gap (gap : List Char) (outside : ∀ c ∈ gap, p c = false) : Cut p gap []
  | word (gap word rest : List Char) (later : List (List Char)) (outside : ∀ c ∈ gap, p c = false)
      (filled : word ≠ []) (inside : ∀ c ∈ word, p c = true) (ends : ∀ c ∈ rest.head?, p c = false)
      (cut : Cut p rest later) : Cut p (gap ++ (word ++ rest)) (word :: later)

def Apart (p : Char → Bool) (s t : List Char) : Prop :=
  ∀ c ∈ s.getLast?, ∀ d ∈ t.head?, p c = false ∨ p d = false

theorem apart_nil_left {t : List Char} : Apart p [] t := nofun

theorem apart_nil_right {s : List Char} : Apart p s [] := fun _ _ => nofun

theorem runs_gap (gap rest : List Char) (outside : ∀ c ∈ gap, p c = false) : runs p (gap ++ rest) = runs p rest := by
  induction gap with
  | nil => rfl
  | cons c gap ih =>
      obtain ⟨first, later⟩ := List.forall_mem_cons.mp outside
      simpa [runs, first] using ih later

theorem runs_word (word rest : List Char) (filled : word ≠ []) (inside : ∀ c ∈ word, p c = true)
    (ends : ∀ c ∈ rest.head?, p c = false) : runs p (word ++ rest) = word :: runs p rest := by
  induction word with
  | nil => exact absurd rfl filled
  | cons c word ih =>
      obtain ⟨first, later⟩ := List.forall_mem_cons.mp inside
      cases word with
      | nil =>
          cases rest with
          | nil => simp [runs, first]
          | cons d rest =>
              have outside : p d = false := ends d rfl
              simp [runs, first, outside]
      | cons d word =>
          have second : p d = true := later d (List.mem_cons_self ..)
          have read : runs p (d :: (word ++ rest)) = (d :: word) :: runs p rest := ih nofun later
          rw [List.cons_append, List.cons_append, runs.eq_def]
          simp only [first, second, read, ↓reduceIte]

theorem Cut.after_gap {rest : List Char} {ws : List (List Char)} (before : List Char) (outside : ∀ c ∈ before, p c = false)
    (cut : Cut p rest ws) : Cut p (before ++ rest) ws := by
  cases cut with
  | gap gap clear => exact .gap _ (List.forall_mem_append.mpr ⟨outside, clear⟩)
  | word gap word rest later clear filled inside ends cut =>
      rw [← List.append_assoc]
      exact .word _ word rest later (List.forall_mem_append.mpr ⟨outside, clear⟩) filled inside ends cut

theorem Cut.runs_eq {s : List Char} {ws : List (List Char)} (cut : Cut p s ws) : runs p s = ws := by
  induction cut with
  | gap gap outside => simpa [runs] using runs_gap gap [] outside
  | word gap word rest later outside filled inside ends cut ih =>
      rw [runs_gap gap _ outside, runs_word word rest filled inside ends, ih]

theorem Cut.after_letter {c : Char} {rest : List Char} {ws : List (List Char)} (letter : p c = true) (cut : Cut p rest ws) :
    ∃ vs, Cut p (c :: rest) vs := by
  have alone (ends : ∀ d ∈ rest.head?, p d = false) : ∃ vs, Cut p (c :: rest) vs := by
    exact ⟨[c] :: ws, .word [] [c] rest ws nofun nofun (by simpa using letter) ends cut⟩
  cases cut with
  | gap gap outside => exact alone fun d first => outside d (List.mem_of_mem_head? first)
  | word gap word rest later outside filled inside ends cut =>
      cases gap with
      | nil =>
          have letters : ∀ d ∈ c :: word, p d = true := List.forall_mem_cons.mpr ⟨letter, inside⟩
          exact ⟨(c :: word) :: later, .word [] (c :: word) rest later nofun nofun letters ends cut⟩
      | cons b gap =>
          apply alone
          intro d first
          obtain rfl : b = d := by simpa using first
          exact outside b (List.mem_cons_self ..)

theorem exists_cut (p : Char → Bool) (s : List Char) : ∃ ws, Cut p s ws := by
  induction s with
  | nil => exact ⟨[], .gap [] nofun⟩
  | cons c rest ih =>
      obtain ⟨ws, cut⟩ := ih
      cases first : p c with
      | false => exact ⟨ws, cut.after_gap [c] (by simpa using first)⟩
      | true => exact cut.after_letter first

theorem cut_iff {s : List Char} {ws : List (List Char)} : Cut p s ws ↔ runs p s = ws := by
  constructor
  · exact Cut.runs_eq
  · intro read
    obtain ⟨vs, cut⟩ := exists_cut p s
    rwa [← read, cut.runs_eq]

theorem Apart.of_word_nil {gap word t : List Char} (filled : word ≠ []) (inside : ∀ c ∈ word, p c = true)
    (apart : Apart p (gap ++ word) t) : ∀ d ∈ t.head?, p d = false := by
  intro d first
  have last : (gap ++ word).getLast? = some (word.getLast filled) := by
    rw [List.getLast?_append_of_ne_nil _ filled, List.getLast?_eq_some_getLast filled]
  have letter : p (word.getLast filled) = true := inside _ (List.getLast_mem filled)
  exact (apart _ last d first).resolve_left (by simp [letter])

theorem Apart.of_append {s rest t : List Char} (apart : Apart p (s ++ rest) t) (more : rest ≠ []) : Apart p rest t := by
  rwa [Apart, List.getLast?_append_of_ne_nil _ more] at apart

theorem Cut.append {s t : List Char} {ws vs : List (List Char)} (left : Cut p s ws) (right : Cut p t vs)
    (apart : Apart p s t) : Cut p (s ++ t) (ws ++ vs) := by
  induction left with
  | gap gap outside => exact right.after_gap gap outside
  | word gap word rest later outside filled inside ends cut ih =>
      rw [List.append_assoc, List.append_assoc]
      rcases eq_or_ne rest [] with rfl | more
      · -- The word is the last of its text.
        rw [List.append_nil] at apart
        exact .word gap word t _ outside filled inside (apart.of_word_nil filled inside) (ih apart_nil_left)
      · refine .word gap word (rest ++ t) _ outside filled inside ?_ (ih ?_)
        · rwa [List.head?_append_of_ne_nil _ more]
        · rw [← List.append_assoc] at apart
          exact apart.of_append more

theorem runs_append {s t : List Char} (apart : Apart p s t) : runs p (s ++ t) = runs p s ++ runs p t :=
  ((cut_iff.mpr rfl).append (cut_iff.mpr rfl) apart).runs_eq

theorem runs_eq_nil_iff {s : List Char} : runs p s = [] ↔ ∀ c ∈ s, p c = false := by
  rw [← cut_iff]
  constructor
  · intro cut
    generalize none : ([] : List (List Char)) = ws at cut
    cases cut with
    | gap gap outside => exact outside
    | word => cases none
  · exact Cut.gap s

theorem words_eq_nil_iff {s : List Char} : words s = [] ↔ ∀ c ∈ s, isAlphanumeric c = false := by
  rw [words, List.map_eq_nil_iff, runs_eq_nil_iff]

end SearchStore.Text

/-!
The order of texts by code point, which is also the order of their UTF-8 bytes.
-/

set_option autoImplicit false

namespace SearchStore.Text

def precedes : List Char → List Char → Bool
  | _, [] => false
  | [], _ :: _ => true
  | a :: s, b :: t => a.toNat < b.toNat || (a == b && precedes s t)

def before (s t : String) : Bool := precedes s.toList t.toList

theorem precedes_irrefl (s : List Char) : precedes s s = false := by
  induction s with
  | nil => rfl
  | cons a s ih => simp [precedes, ih]

theorem precedes_trans {s t u : List Char} (first : precedes s t = true)
    (second : precedes t u = true) : precedes s u = true := by
  induction s generalizing t u with
  | nil =>
      cases u with
      | nil => cases t <;> simp [precedes] at second
      | cons c u => rfl
  | cons a s ih =>
      cases t with
      | nil => simp [precedes] at first
      | cons b t =>
          cases u with
          | nil => simp [precedes] at second
          | cons c u =>
              simp only [precedes, Bool.or_eq_true, decide_eq_true_eq, Bool.and_eq_true,
                beq_iff_eq] at first second ⊢
              rcases first with less | ⟨rfl, rest⟩
              · rcases second with more | ⟨rfl, _⟩
                · exact Or.inl (by omega)
                · exact Or.inl less
              · rcases second with more | ⟨rfl, later⟩
                · exact Or.inl more
                · exact Or.inr ⟨rfl, ih rest later⟩

theorem precedes_total {s t : List Char} (different : s ≠ t) :
    precedes s t = true ∨ precedes t s = true := by
  induction s generalizing t with
  | nil =>
      cases t with
      | nil => exact absurd rfl different
      | cons b t => exact Or.inl rfl
  | cons a s ih =>
      cases t with
      | nil => exact Or.inr rfl
      | cons b t =>
          simp only [precedes, Bool.or_eq_true, decide_eq_true_eq, Bool.and_eq_true, beq_iff_eq]
          by_cases same : a = b
          · subst same
            rcases ih (fun h => different (by rw [h])) with h | h
            · exact Or.inl (Or.inr ⟨rfl, h⟩)
            · exact Or.inr (Or.inr ⟨rfl, h⟩)
          · have apart : a.toNat ≠ b.toNat := fun h => same (Char.toNat_inj.mp h)
            rcases Nat.lt_or_gt_of_ne apart with h | h
            · exact Or.inl (Or.inl h)
            · exact Or.inr (Or.inl h)

theorem before_trans {s t u : String} (first : before s t = true) (second : before t u = true) :
    before s u = true :=
  precedes_trans first second

theorem before_total {s t : String} (different : s ≠ t) :
    before s t = true ∨ before t s = true :=
  precedes_total fun same => different (String.toList_inj.mp same)

end SearchStore.Text

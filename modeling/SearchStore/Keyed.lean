import SearchStore.Text.Order

/-!
Association lists ordered by key, each key once. Reading is by key; writing keeps the order. Ordered
lists in which every key finds the same are equal.
-/

set_option autoImplicit false

namespace SearchStore

abbrev Keyed (α : Type) := List (String × α)

namespace Keyed

variable {α β : Type}

def find? (m : Keyed α) (key : String) : Option α :=
  match m with
  | [] => none
  | (k, v) :: rest => if k = key then some v else Keyed.find? rest key

def contains (m : Keyed α) (key : String) : Bool := (Keyed.find? m key).isSome

def keys (m : Keyed α) : List String := m.map (·.1)

def insert (m : Keyed α) (key : String) (value : α) : Keyed α :=
  match m with
  | [] => [(key, value)]
  | (k, v) :: rest =>
      if key = k then (key, value) :: rest
      else if Text.before key k then (key, value) :: (k, v) :: rest
      else (k, v) :: Keyed.insert rest key value

theorem find_insert_same (m : Keyed α) (key : String) (value : α) :
    Keyed.find? (Keyed.insert m key value) key = some value := by
  induction m with
  | nil => simp [Keyed.insert, Keyed.find?]
  | cons e rest ih =>
      obtain ⟨k, v⟩ := e
      by_cases same : key = k
      · simp [Keyed.insert, Keyed.find?, same]
      · by_cases earlier : Text.before key k = true
        · simp [Keyed.insert, Keyed.find?, same, earlier]
        · simp [Keyed.insert, Keyed.find?, same, earlier, Ne.symm same, ih]

theorem find_insert_other (m : Keyed α) (key query : String) (value : α) (different : query ≠ key) :
    Keyed.find? (Keyed.insert m key value) query = Keyed.find? m query := by
  induction m with
  | nil => simp [Keyed.insert, Keyed.find?, Ne.symm different]
  | cons e rest ih =>
      obtain ⟨k, v⟩ := e
      by_cases same : key = k
      · subst same
        simp [Keyed.insert, Keyed.find?, Ne.symm different]
      · by_cases earlier : Text.before key k = true
        · simp [Keyed.insert, Keyed.find?, same, earlier, Ne.symm different]
        · simp [Keyed.insert, Keyed.find?, same, earlier, ih]

def ofList (members : List (String × α)) : Keyed α :=
  members.foldl (fun m e => Keyed.insert m e.1 e.2) []

def Ordered (m : Keyed α) : Prop := m.Pairwise fun a b => Text.before a.1 b.1 = true

theorem key_of_mem_insert {m : Keyed α} {key : String} {value : α} {e : String × α}
    (member : e ∈ Keyed.insert m key value) : e.1 = key ∨ e ∈ m := by
  induction m with
  | nil =>
      rw [Keyed.insert, List.mem_singleton] at member
      exact Or.inl (by rw [member])
  | cons f rest ih =>
      obtain ⟨k, v⟩ := f
      by_cases same : key = k
      · simp only [Keyed.insert, same, ↓reduceIte, List.mem_cons] at member
        rcases member with rfl | member
        · exact Or.inl same.symm
        · exact Or.inr (List.mem_cons_of_mem _ member)
      · by_cases earlier : Text.before key k = true
        · simp only [Keyed.insert, same, earlier, ↓reduceIte, List.mem_cons] at member
          rcases member with rfl | member
          · exact Or.inl rfl
          · exact Or.inr (List.mem_cons.mpr member)
        · simp only [Keyed.insert, same, earlier, ↓reduceIte] at member
          rcases List.mem_cons.mp member with rfl | member
          · exact Or.inr (List.mem_cons_self ..)
          · rcases ih member with found | found
            · exact Or.inl found
            · exact Or.inr (List.mem_cons_of_mem _ found)

theorem insert_ordered {m : Keyed α} (key : String) (value : α) (ordered : Ordered m) :
    Ordered (Keyed.insert m key value) := by
  induction m with
  | nil => exact List.pairwise_singleton ..
  | cons f rest ih =>
      obtain ⟨k, v⟩ := f
      obtain ⟨first, later⟩ := List.pairwise_cons.mp ordered
      by_cases same : key = k
      · subst same
        simp only [Keyed.insert, ↓reduceIte]
        exact List.pairwise_cons.mpr ⟨first, later⟩
      · by_cases earlier : Text.before key k = true
        · simp only [Keyed.insert, same, earlier, ↓reduceIte]
          refine List.pairwise_cons.mpr ⟨?_, ordered⟩
          intro e member
          rcases List.mem_cons.mp member with rfl | member
          · exact earlier
          · exact Text.before_trans earlier (first e member)
        · simp only [Keyed.insert, same, earlier, ↓reduceIte]
          refine List.pairwise_cons.mpr ⟨?_, ih later⟩
          intro e member
          rcases key_of_mem_insert member with found | found
          · rw [found]
            exact (Text.before_total (Ne.symm same)).resolve_right earlier
          · exact first e found

theorem ofList_ordered (members : List (String × α)) : Ordered (Keyed.ofList members) := by
  have fold (before : Keyed α) (ordered : Ordered before) :
      Ordered (members.foldl (fun m e => Keyed.insert m e.1 e.2) before) := by
    induction members generalizing before with
    | nil => exact ordered
    | cons e rest ih => exact ih _ (insert_ordered e.1 e.2 ordered)
  exact fold [] List.Pairwise.nil

theorem find_none_of_before {m : Keyed α} {key : String}
    (later : ∀ e ∈ m, Text.before key e.1 = true) : Keyed.find? m key = none := by
  induction m with
  | nil => rfl
  | cons f rest ih =>
      obtain ⟨k, v⟩ := f
      have apart : k ≠ key := by
        intro same
        have order := later (k, v) (List.mem_cons_self ..)
        rw [same, Text.before, Text.precedes_irrefl] at order
        cases order
      rw [Keyed.find?, if_neg apart]
      exact ih fun e member => later e (List.mem_cons_of_mem _ member)

theorem eq_of_find {m n : Keyed α} (orderedLeft : Ordered m) (orderedRight : Ordered n)
    (alike : ∀ key, Keyed.find? m key = Keyed.find? n key) : m = n := by
  induction m generalizing n with
  | nil =>
      cases n with
      | nil => rfl
      | cons f rest =>
          have first := alike f.1
          simp [Keyed.find?] at first
  | cons e left ih =>
      obtain ⟨k, v⟩ := e
      obtain ⟨firstLeft, tailLeft⟩ := List.pairwise_cons.mp orderedLeft
      cases n with
      | nil =>
          have first := alike k
          simp [Keyed.find?] at first
      | cons f right =>
          obtain ⟨l, w⟩ := f
          obtain ⟨firstRight, tailRight⟩ := List.pairwise_cons.mp orderedRight
          have same : k = l := by
            by_cases same : k = l
            · exact same
            · exfalso
              rcases Text.before_total same with less | less
              · have found := alike k
                rw [find_none_of_before (m := (l, w) :: right)] at found
                · simp [Keyed.find?] at found
                · intro e member
                  rcases List.mem_cons.mp member with rfl | member
                  · exact less
                  · exact Text.before_trans less (firstRight e member)
              · have found := alike l
                rw [find_none_of_before (m := (k, v) :: left)] at found
                · simp [Keyed.find?] at found
                · intro e member
                  rcases List.mem_cons.mp member with rfl | member
                  · exact less
                  · exact Text.before_trans less (firstLeft e member)
          subst same
          have value : v = w := by simpa [Keyed.find?] using alike k
          subst value
          congr 1
          apply ih tailLeft tailRight
          intro key
          by_cases here : k = key
          · subst here
            rw [find_none_of_before firstLeft, find_none_of_before firstRight]
          · simpa [Keyed.find?, here] using alike key

end Keyed

end SearchStore

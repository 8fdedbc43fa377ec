import SearchStore.Json.Parser

/-!
Values that are read are canonical: in each of their objects the members stand in the order of their
keys, each key once.
-/

set_option autoImplicit false

namespace SearchStore

namespace Keyed

variable {α : Type} {m : Keyed α} {key : String} {value : α} {e : String × α}

theorem mem_insert (member : e ∈ Keyed.insert m key value) : e = (key, value) ∨ e ∈ m := by
  induction m with
  | nil => exact Or.inl (List.mem_singleton.mp member)
  | cons f rest ih =>
      obtain ⟨k, v⟩ := f
      by_cases same : key = k
      · simp only [Keyed.insert, same, ↓reduceIte] at member
        rcases List.mem_cons.mp member with here | member
        · exact Or.inl (by rw [here, same])
        · exact Or.inr (List.mem_cons_of_mem _ member)
      · by_cases earlier : Text.before key k = true
        · simp only [Keyed.insert, same, earlier, ↓reduceIte] at member
          exact List.mem_cons.mp member
        · simp only [Keyed.insert, same, earlier, ↓reduceIte] at member
          rcases List.mem_cons.mp member with here | member
          · exact Or.inr (List.mem_cons.mpr (Or.inl here))
          · rcases ih member with found | found
            · exact Or.inl found
            · exact Or.inr (List.mem_cons_of_mem _ found)

theorem mem_foldl {members : List (String × α)} {before : Keyed α}
    (member : e ∈ members.foldl (fun m e => Keyed.insert m e.1 e.2) before) : e ∈ before ∨ e ∈ members := by
  induction members generalizing before with
  | nil => exact Or.inl member
  | cons f rest ih =>
      rcases ih member with inserted | later
      · rcases mem_insert inserted with here | earlier
        · exact Or.inr (List.mem_cons.mpr (Or.inl here))
        · exact Or.inl earlier
      · exact Or.inr (List.mem_cons_of_mem _ later)

theorem mem_of_list {members : List (String × α)} (member : e ∈ Keyed.ofList members) : e ∈ members :=
  (mem_foldl member).resolve_left List.not_mem_nil

theorem mem_of_find {m : Keyed α} (found : Keyed.find? m key = some value) : (key, value) ∈ m := by
  induction m with
  | nil => cases found
  | cons f rest ih =>
      obtain ⟨k, v⟩ := f
      by_cases here : k = key
      · rw [Keyed.find?, if_pos here] at found
        cases found
        exact List.mem_cons.mpr (Or.inl (by rw [here]))
      · rw [Keyed.find?, if_neg here] at found
        exact List.mem_cons_of_mem _ (ih found)

end Keyed

namespace Json

theorem canonical_members {members : List (String × Json)} :
    CanonicalMembers members ↔ ∀ e ∈ members, e.2.Canonical := by
  induction members with
  | nil => simp [CanonicalMembers]
  | cons e rest ih => simp [CanonicalMembers, ih]

theorem of_members_canonical {members : List (String × Json)} (canonical : CanonicalMembers members) :
    (ofMembers members).Canonical := by
  refine ⟨Keyed.ofList_ordered members, canonical_members.mpr fun e member => ?_⟩
  exact canonical_members.mp canonical e (Keyed.mem_of_list member)

mutual
theorem value_canonical : ∀ {d : Draft} {v : Json}, d.value? = some v → v.Canonical
  | .null, v, read | .bool b, v, read | .number n, v, read | .string s, v, read => by
      cases read
      trivial
  | .array items, v, read => by
      obtain ⟨values, all, rfl⟩ := Option.map_eq_some_iff.mp read
      exact items_canonical all
  | .object members, v, read => by
      obtain ⟨values, all, rfl⟩ := Option.map_eq_some_iff.mp read
      exact of_members_canonical (members_canonical all)
  | .unusable, v, read => by cases read

theorem items_canonical : ∀ {items : List Draft} {values : List Json}, Draft.itemValues? items = some values →
    CanonicalItems values
  | [], values, read => by
      cases read
      trivial
  | d :: rest, values, read => by
      obtain ⟨v, first, read⟩ := Option.bind_eq_some_iff.mp read
      obtain ⟨later, others, read⟩ := Option.bind_eq_some_iff.mp read
      cases read
      exact ⟨value_canonical first, items_canonical others⟩

theorem members_canonical : ∀ {members : List (String × Draft)} {values : List (String × Json)},
    Draft.memberValues? members = some values → CanonicalMembers values
  | [], values, read => by
      cases read
      trivial
  | (k, d) :: rest, values, read => by
      obtain ⟨v, first, read⟩ := Option.bind_eq_some_iff.mp read
      obtain ⟨later, others, read⟩ := Option.bind_eq_some_iff.mp read
      cases read
      exact ⟨value_canonical first, members_canonical others⟩
end

theorem parsed_canonical {text : String} {v : Json} (parsed : parse? text = some v) : v.Canonical := by
  obtain ⟨d, _, read⟩ := Option.bind_eq_some_iff.mp parsed
  exact value_canonical read

theorem member_canonical {v w : Json} {key : String} (canonical : v.Canonical) (found : v.get? key = some w) :
    w.Canonical := by
  cases v with
  | object members => exact canonical_members.mp canonical.2 (key, w) (Keyed.mem_of_find found)
  | null | bool | number | string | array => cases found

end Json

end SearchStore

import Mathlib.Data.List.Nodup
import Mathlib.Data.List.Perm.Subperm
import SearchStore.Store.Table

/-!
Tables whose ids are distinct. There an update rewrites one row where it stands, a deletion takes
one row out, and the number drawn for an id is the least one after the last that is not taken.
-/

set_option autoImplicit false

namespace SearchStore.Table

def ids (t : Table) : List String := t.rows.map (·.id)

def Distinct (t : Table) : Prop := t.ids.Nodup

theorem find_none {t : Table} {id : String} : t.find? id = none ↔ id ∉ t.ids := by
  simp [find?, ids]

theorem has_id {t : Table} {id : String} : t.hasId id = true ↔ id ∈ t.ids := by
  rw [hasId, Option.isSome_iff_ne_none, Ne, find_none, not_not]

theorem find_some {t : Table} {id : String} {d : Document} (found : t.find? id = some d) : d ∈ t.rows ∧ d.id = id := by
  have here := List.find?_some found
  exact ⟨List.mem_of_find?_eq_some found, by simpa using here⟩

theorem empty_distinct : Distinct .empty := List.nodup_nil

theorem insert_distinct {t : Table} {d : Document} (distinct : t.Distinct) (absent : t.find? d.id = none) :
    (t.insert d).Distinct := by
  rw [Distinct, ids, insert, List.map_append, List.map_singleton]
  refine List.Nodup.append distinct (List.nodup_singleton d.id) ?_
  rw [List.disjoint_singleton]
  exact find_none.mp absent

theorem replace_ids (t : Table) (d : Document) : (t.replace d).ids = t.ids := by
  rw [ids, replace, List.map_map]
  apply List.map_congr_left
  intro e _
  by_cases same : e.id = d.id <;> simp [same]

theorem replace_distinct {t : Table} {d : Document} (distinct : t.Distinct) : (t.replace d).Distinct := by
  rw [Distinct, replace_ids]
  exact distinct

theorem erase_distinct {t : Table} {id : String} (distinct : t.Distinct) : (t.erase id).Distinct :=
  distinct.sublist (List.eraseP_sublist.map _)

theorem replace_rows {t : Table} {id : String} {d : Document} (distinct : t.Distinct) (found : t.find? id = some d)
    (change : Document → Document) (keeps : (change d).id = d.id) :
    (t.replace (change d)).rows = t.rows.map fun e => if e.id = id then change e else e := by
  obtain ⟨member, here⟩ := find_some found
  apply List.map_congr_left
  intro e other
  rw [keeps, here]
  by_cases same : e.id = id
  · have equal : e = d := List.inj_on_of_nodup_map distinct other member (same.trans here.symm)
    rw [if_pos same, if_pos same, equal]
  · rw [if_neg same, if_neg same]

theorem erase_rows {t : Table} (id : String) (distinct : t.Distinct) :
    (t.erase id).rows = t.rows.filter fun e => e.id ≠ id := by
  obtain ⟨drawn, rows⟩ := t
  simp only [erase, Distinct, ids] at distinct ⊢
  induction rows with
  | nil => rfl
  | cons e rest ih =>
      obtain ⟨absent, later⟩ := List.nodup_cons.mp distinct
      by_cases same : e.id = id
      · have kept : rest.filter (fun e => e.id ≠ id) = rest := by
          apply List.filter_eq_self.mpr
          intro other member
          have apart : other.id ≠ id := fun equal =>
            absent (List.mem_map.mpr ⟨other, member, equal.trans same.symm⟩)
          exact decide_eq_true apart
        rw [List.eraseP_cons_of_pos (by simpa using same), List.filter_cons_of_neg (by simpa using same), kept]
      · simp [same, ih later]

theorem decimal_injective {m n : Nat} (same : toString m = toString n) : m = n := by
  have digits := congrArg String.toList same
  rw [Nat.toString_eq_repr, Nat.toString_eq_repr, Nat.toList_repr, Nat.toList_repr] at digits
  have values := congrArg (Nat.ofDigitChars 10 · 0) digits
  simpa only [Nat.ofDigitChars_ten_toDigits] using values

-- As many candidates as there are rows, and one more, cannot all be ids of rows.
theorem free_candidate (t : Table) : ∃ k ≤ t.rows.length, t.hasId (toString (t.drawn + 1 + k)) = false := by
  by_contra none
  simp only [not_exists, not_and, Bool.not_eq_false] at none
  let candidates := (List.range (t.rows.length + 1)).map fun k => toString (t.drawn + 1 + k)
  have apart : candidates.Nodup := by
    apply List.Nodup.map _ List.nodup_range
    intro j k same
    exact Nat.add_left_cancel (decimal_injective same)
  have taken : candidates ⊆ t.ids := by
    intro id member
    obtain ⟨k, inside, rfl⟩ := List.mem_map.mp member
    exact has_id.mp (none k (Nat.le_of_lt_succ (List.mem_range.mp inside)))
  have fits := (List.subperm_of_subset apart taken).length_le
  simp only [candidates, ids, List.length_map, List.length_range] at fits
  omega

theorem next_free_least (t : Table) :
    t.drawn < t.nextFree ∧ t.hasId (toString t.nextFree) = false ∧
      ∀ n, t.drawn < n → n < t.nextFree → t.hasId (toString n) = true := by
  simp only [nextFree]
  cases found : (List.range t.rows.length).find? fun k => !t.hasId (toString (t.drawn + 1 + k)) with
  | some k =>
      obtain ⟨free, _, before⟩ := List.find?_range_eq_some.mp found
      refine ⟨by simp; omega, by simpa using free, ?_⟩
      intro n after less
      have passed := before (n - (t.drawn + 1)) (by simp at less; omega)
      rwa [Bool.not_not, Nat.add_sub_of_le after] at passed
  | none =>
      have taken := List.find?_range_eq_none.mp found
      obtain ⟨k, bound, free⟩ := t.free_candidate
      have last : k = t.rows.length := by
        by_contra early
        have here := taken k (by omega)
        rw [free] at here
        cases here
      subst last
      refine ⟨by simp; omega, free, ?_⟩
      intro n after less
      have passed := taken (n - (t.drawn + 1)) (by simp at less; omega)
      rwa [Bool.not_not, Nat.add_sub_of_le after] at passed

end SearchStore.Table

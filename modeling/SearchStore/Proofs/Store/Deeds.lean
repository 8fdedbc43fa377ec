import Mathlib.Data.List.Lattice
import SearchStore.Proofs.Store.Operation
import SearchStore.Proofs.Store.Rows

/-!
What can be done to the documents of a table: they are created, updated and deleted. A table is made
by such deeds from nothing, which keeps its ids distinct and filled and its versions positive. The
numbers drawn for ids only rise, so none is issued twice, and every number passed over was created.
-/

set_option autoImplicit false

namespace SearchStore.Store

inductive Deed where
  | created (id : String) (source : Json) (generated : Bool)
  | updated (id : String) (source : Json)
  | deleted (id : String)

namespace Deed

def id : Deed → String
  | created id _ _ => id
  | updated id _ => id
  | deleted id => id

def on (t : Table) : Deed → Table
  | created id source generated =>
      { t.insert ⟨id, source, 1⟩ with drawn := if generated then t.nextFree else t.drawn }
  | updated id source =>
      match t.find? id with
      | some d => t.replace (d.revised source)
      | none => t
  | deleted id => t.erase id

theorem number_absent (t : Table) : t.find? (toString t.nextFree) = none := by
  obtain ⟨_, free, _⟩ := t.next_free_least
  rw [Table.find_none, ← Table.has_id, free]
  exact Bool.false_ne_true

-- The deeds that a table lets be done in it.
inductive Fits (t : Table) : Deed → Prop where
  | supplied (id : String) (source : Json) (given : id ≠ "") (accepted : checkId id = .ok ())
      (absent : t.find? id = none) : Fits t (created id source false)
  | generated (source : Json) : Fits t (created (toString t.nextFree) source true)
  | updated (id : String) (source : Json) (present : (t.find? id).isSome) : Fits t (updated id source)
  | deleted (id : String) (present : (t.find? id).isSome) : Fits t (deleted id)

def next : Deed → Option Document → Option Document
  | created id source _, _ => some ⟨id, source, 1⟩
  | updated _ source, found => found.map (·.revised source)
  | deleted _, _ => none

def creation? : Deed → Option String
  | created id _ _ => some id
  | _ => none

def issue? : Deed → Option String
  | created id _ true => some id
  | _ => none

variable {t : Table} {d : Deed} {id : String}

theorem find_other (other : id ≠ d.id) (t : Table) : (d.on t).find? id = t.find? id := by
  cases d with
  | created made source generated => exact Table.find_insert_other other
  | updated changed source =>
      rw [on]
      cases found : t.find? changed with
      | none => rfl
      | some e =>
          apply Table.find_replace_other
          rw [Document.revised, (Table.find_some found).2]
          exact other
  | deleted gone => exact Table.find_erase_other other

theorem find_same (fits : d.Fits t) (distinct : t.Distinct) : (d.on t).find? d.id = d.next (t.find? d.id) := by
  cases fits with
  | supplied id source given accepted absent => exact Table.find_insert_same absent
  | generated source =>
      exact Table.find_insert_same (d := ⟨toString t.nextFree, source, 1⟩) (number_absent t)
  | updated id source present =>
      obtain ⟨e, found⟩ := Option.isSome_iff_exists.mp present
      have here : (e.revised source).id = id := (Table.find_some found).2
      have held : t.hasId (e.revised source).id = true := by
        rw [here]
        exact present
      simp only [on, Deed.id, next, found, Option.map_some]
      exact here ▸ Table.find_replace_same held
  | deleted id present =>
      rw [on, Deed.id, next, Table.find?, Table.erase_rows id distinct, List.find?_eq_none]
      intro e member
      simpa using (List.mem_filter.mp member).2

theorem row_on {e : Document} (fits : d.Fits t) (member : e ∈ (d.on t).rows) :
    (d.creation? = some e.id ∧ e.version = 1) ∨ ∃ before ∈ t.rows, e.id = before.id ∧ before.version ≤ e.version := by
  cases d with
  | created id source generated =>
      rcases List.mem_append.mp member with old | new
      · exact Or.inr ⟨e, old, rfl, Int.le_refl _⟩
      · rw [List.mem_singleton.mp new]
        exact Or.inl ⟨rfl, rfl⟩
  | updated id source =>
      cases fits with
      | updated _ _ present =>
          obtain ⟨before, found⟩ := Option.isSome_iff_exists.mp present
          simp only [on, found] at member
          obtain ⟨row, old, rfl⟩ := List.mem_map.mp member
          by_cases mine : row.id = (before.revised source).id
          · rw [if_pos mine]
            exact Or.inr ⟨before, (Table.find_some found).1, rfl, Int.le_add_one (Int.le_refl _)⟩
          · rw [if_neg mine]
            exact Or.inr ⟨row, old, rfl, Int.le_refl _⟩
  | deleted id => exact Or.inr ⟨e, List.mem_of_mem_eraseP member, rfl, Int.le_refl _⟩

end Deed

-- A table with the deeds that have made it.
inductive Made : List Deed → Table → Prop where
  | empty : Made [] .empty
  | next {h : List Deed} {t : Table} {d : Deed} (made : Made h t) (fits : d.Fits t) : Made (h ++ [d]) (d.on t)

def creations (h : List Deed) : List String := h.filterMap (·.creation?)

def issued (h : List Deed) : List String := h.filterMap (·.issue?)

variable {h : List Deed} {t : Table}

theorem made_distinct (made : Made h t) : t.Distinct := by
  induction made with
  | empty => exact Table.empty_distinct
  | @next h t d made fits ih =>
      cases fits with
      | supplied id source given accepted absent => exact Table.insert_distinct ih absent
      | generated source => exact Table.insert_distinct ih (Deed.number_absent t)
      | updated id source present =>
          obtain ⟨e, found⟩ := Option.isSome_iff_exists.mp present
          rw [Deed.on, found]
          exact Table.replace_distinct ih
      | deleted id present => exact Table.erase_distinct ih

theorem drawn_rises (d : Deed) (t : Table) : t.drawn ≤ (d.on t).drawn := by
  cases d with
  | created id source generated =>
      cases generated with
      | false => exact Nat.le_refl _
      | true => exact Nat.le_of_lt t.next_free_least.1
  | updated id source =>
      rw [Deed.on]
      split <;> exact Nat.le_refl _
  | deleted id => exact Nat.le_refl _

def Admitted (t : Table) (id : String) : Prop := checkId id = .ok () ∨ ∃ n ≤ t.drawn, id = toString n

theorem created_admitted {d : Deed} {id : String} (fits : d.Fits t) (created : d.creation? = some id) :
    id ≠ "" ∧ Admitted (d.on t) id := by
  cases fits with
  | supplied given source filled accepted absent =>
      cases created
      exact ⟨filled, Or.inl accepted⟩
  | generated source =>
      cases created
      exact ⟨Nat.repr_ne_empty, Or.inr ⟨t.nextFree, Nat.le_refl _, rfl⟩⟩
  | updated => cases created
  | deleted => cases created

theorem made_rows (made : Made h t) : ∀ e ∈ t.rows, e.id ≠ "" ∧ 1 ≤ e.version ∧ Admitted t e.id := by
  induction made with
  | empty =>
      intro e member
      cases member
  | @next h t d made fits ih =>
      intro e member
      rcases Deed.row_on fits member with ⟨created, first⟩ | ⟨before, old, same, later⟩
      · obtain ⟨filled, admitted⟩ := created_admitted fits created
        exact ⟨filled, Int.le_of_eq first.symm, admitted⟩
      · obtain ⟨filled, positive, admitted⟩ := ih before old
        rw [same]
        refine ⟨filled, Int.le_trans positive later, ?_⟩
        rcases admitted with accepted | ⟨n, drawn, text⟩
        · exact Or.inl accepted
        · exact Or.inr ⟨n, Nat.le_trans drawn (drawn_rises d t), text⟩

theorem creations_snoc (h : List Deed) (d : Deed) : creations (h ++ [d]) = creations h ++ d.creation?.toList := by
  rw [creations, List.filterMap_append]
  cases created : d.creation? <;> simp [creations, created]

theorem issued_snoc (h : List Deed) (d : Deed) : issued (h ++ [d]) = issued h ++ d.issue?.toList := by
  rw [issued, List.filterMap_append]
  cases given : d.issue? <;> simp [issued, given]

theorem made_living (made : Made h t) : t.ids ⊆ creations h := by
  induction made with
  | empty => exact List.nil_subset _
  | @next h t d made fits ih =>
      intro id member
      obtain ⟨e, row, rfl⟩ := List.mem_map.mp member
      rw [creations_snoc, List.mem_append, Option.mem_toList]
      rcases Deed.row_on fits row with ⟨created, _⟩ | ⟨before, old, same, _⟩
      · exact Or.inr created
      · rw [same]
        exact Or.inl (ih (List.mem_map_of_mem old))

-- The ids created and not deleted since, in the order of their last creation.
def arrange (ids : List String) : Deed → List String
  | .created id _ _ => ids ++ [id]
  | .updated _ _ => ids
  | .deleted id => ids.filter (· ≠ id)

def arrivals (h : List Deed) : List String := h.foldl arrange []

theorem made_arrivals (made : Made h t) : t.ids = arrivals h := by
  induction made with
  | empty => rfl
  | @next h t d made fits ih =>
      have before : arrivals (h ++ [d]) = arrange (arrivals h) d := List.foldl_concat ..
      rw [before, ← ih]
      cases fits with
      | supplied | generated => simp [Deed.on, arrange, Table.ids, Table.insert]
      | updated id source present =>
          obtain ⟨e, found⟩ := Option.isSome_iff_exists.mp present
          simp only [Deed.on, found, arrange, Table.replace_ids]
      | deleted id present =>
          rw [Deed.on, Table.ids, Table.erase_rows id (made_distinct made), arrange, Table.ids, List.filter_map]
          rfl

theorem made_passed (made : Made h t) : ∀ n, 0 < n → n ≤ t.drawn → toString n ∈ creations h := by
  induction made with
  | empty =>
      intro n positive drawn
      exact absurd positive (Nat.not_lt.mpr drawn)
  | @next h t d made fits ih =>
      intro n positive drawn
      rw [creations_snoc, List.mem_append, Option.mem_toList]
      by_cases before : n ≤ t.drawn
      · exact Or.inl (ih n positive before)
      · cases fits with
        | supplied => exact absurd drawn before
        | generated source =>
            obtain ⟨_, _, taken⟩ := t.next_free_least
            rcases Nat.lt_or_eq_of_le drawn with less | rfl
            · exact Or.inl (made_living made (Table.has_id.mp (taken n (Nat.lt_of_not_le before) less)))
            · exact Or.inr rfl
        | updated id source present =>
            obtain ⟨e, found⟩ := Option.isSome_iff_exists.mp present
            rw [Deed.on, found] at drawn
            exact absurd drawn before
        | deleted => exact absurd drawn before

theorem made_drawn (made : Made h t) : t.drawn ≤ h.length := by
  let numbers := (List.range t.drawn).map fun k => toString (k + 1)
  have apart : numbers.Nodup := by
    apply List.Nodup.map _ List.nodup_range
    intro j k same
    exact Nat.succ.inj (Table.decimal_injective same)
  have created : numbers ⊆ creations h := by
    intro id member
    obtain ⟨k, below, rfl⟩ := List.mem_map.mp member
    exact made_passed made (k + 1) (Nat.succ_pos k) (List.mem_range.mp below)
  calc t.drawn
    _ = numbers.length := by simp [numbers]
    _ ≤ (creations h).length := (List.subperm_of_subset apart created).length_le
    _ ≤ h.length := List.length_filterMap_le _ _

theorem issued_next {d : Deed} {id : String} (fits : d.Fits t) (given : d.issue? = some id) :
    id = toString t.nextFree ∧ (d.on t).drawn = t.nextFree := by
  cases fits with
  | generated source =>
      cases given
      exact ⟨rfl, rfl⟩
  | supplied => cases given
  | updated => cases given
  | deleted => cases given

theorem made_issued (made : Made h t) : ∀ id ∈ issued h, ∃ n ≤ t.drawn, id = toString n := by
  induction made with
  | empty =>
      intro id member
      cases member
  | @next h t d made fits ih =>
      intro id member
      rw [issued_snoc, List.mem_append, Option.mem_toList] at member
      rcases member with before | now
      · obtain ⟨n, drawn, text⟩ := ih id before
        exact ⟨n, Nat.le_trans drawn (drawn_rises d t), text⟩
      · obtain ⟨text, drawn⟩ := issued_next fits now
        exact ⟨t.nextFree, Nat.le_of_eq drawn.symm, text⟩

theorem number_not_issued (made : Made h t) : toString t.nextFree ∉ issued h := by
  intro before
  obtain ⟨n, drawn, text⟩ := made_issued made _ before
  have same := Table.decimal_injective text
  have above := t.next_free_least.1
  omega

theorem issued_once (made : Made h t) : (issued h).Nodup := by
  induction made with
  | empty => exact List.nodup_nil
  | @next h t d made fits ih =>
      rw [issued_snoc]
      cases given : d.issue? with
      | none => simpa using ih
      | some id =>
          obtain ⟨rfl, _⟩ := issued_next fits given
          refine List.Nodup.append ih (List.nodup_singleton _) ?_
          exact List.disjoint_singleton.mpr (number_not_issued made)

theorem kept_on {d : Deed} {id : String} (fits : d.Fits t) (distinct : t.Distinct) (there : id ∈ t.ids)
    (kept : d ≠ .deleted id) : id ∈ (d.on t).ids := by
  by_contra gone
  rw [← Table.find_none] at gone
  by_cases mine : id = d.id
  · rw [mine, Deed.find_same fits distinct] at gone
    cases d with
    | created => cases gone
    | updated changed source =>
        rw [Deed.next, Option.map_eq_none_iff, Table.find_none] at gone
        exact gone (mine ▸ there)
    | deleted other => exact kept (congrArg Deed.deleted mine.symm)
  · rw [Deed.find_other mine, Table.find_none] at gone
    exact gone there

theorem made_alive (made : Made h t) {before later : List Deed} {id : String} {source : Json} {generated : Bool}
    (split : h = before ++ .created id source generated :: later) (kept : .deleted id ∉ later) : id ∈ t.ids := by
  induction made generalizing later with
  | empty => simp at split
  | @next h t d made fits ih =>
      rcases List.eq_nil_or_concat later with rfl | ⟨earlier, last, rfl⟩
      · obtain ⟨_, last⟩ := List.append_inj' split rfl
        cases last
        simp [Deed.on, Table.ids, Table.insert]
      · rw [List.concat_eq_append, ← List.cons_append, ← List.append_assoc] at split
        obtain ⟨rest, last⟩ := List.append_inj' split rfl
        cases last
        rw [List.concat_eq_append, List.mem_append, not_or, List.mem_singleton] at kept
        exact kept_on fits (made_distinct made) (ih rest kept.1) (Ne.symm kept.2)

end SearchStore.Store

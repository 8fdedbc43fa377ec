import SearchStore.Proofs.Migration.Transfers

/-!
Bringing transfers into a store that has been brought some of them before. Of every index, type and
table it can be told what a list of transfers makes of it; done again on top of itself, that makes
nothing else. Hits have ids of their own for this, since a generated id is new each time.
-/

set_option autoImplicit false

namespace SearchStore

namespace Memory

variable {m n : Memory}

theorem mem_types (ordered : TypesOrdered m.types) {t : TypeEntry} :
    t ∈ m.types ↔ m.typeOf? ⟨t.index, t.name⟩ = some t :=
  ⟨find_by_names ordered, fun found => (entry_of_find found).1⟩

theorem types_eq_of_find (left : TypesOrdered m.types) (right : TypesOrdered n.types)
    (alike : ∀ r, m.typeOf? r = n.typeOf? r) : m.types = n.types := by
  have irreflexive (t : TypeEntry) : typeBefore t t = false := by simp [typeBefore, Text.before, Text.precedes_irrefl]
  have distinct {types : List TypeEntry} (ordered : TypesOrdered types) : types.Nodup := by
    refine ordered.imp fun {a b} before same => ?_
    rw [same, irreflexive] at before
    cases before
  refine List.Perm.eq_of_pairwise ?_ left right ?_
  · intro a b _ _ before after
    have cycle := type_before_trans before after
    rw [irreflexive] at cycle
    cases cycle
  · rw [List.perm_ext_iff_of_nodup (distinct left) (distinct right)]
    intro t
    rw [mem_types left, mem_types right, alike]

end Memory

namespace Store

open State

variable {s s' : State} {q r : Relation} {options name : String}

theorem memory_eq_of_find (left : Reachable s) (right : Reachable s')
    (indices : ∀ name, s.memory.index? name = s'.memory.index? name)
    (types : ∀ r, s.memory.typeOf? r = s'.memory.typeOf? r)
    (tables : ∀ name, Keyed.find? s.memory.tables name = Keyed.find? s'.memory.tables name) : s.memory = s'.memory := by
  have one := reachable_sound left
  have other := reachable_sound right
  have sameIndices := Keyed.eq_of_find one.indicesOrdered other.indicesOrdered indices
  have sameTypes := Memory.types_eq_of_find one.typesOrdered other.typesOrdered types
  have sameTables := Keyed.eq_of_find (reachable_tabled left).ordered (reachable_tabled right).ordered tables
  calc s.memory
    _ = ⟨s.memory.indices, s.memory.types, s.memory.tables⟩ := rfl
    _ = s'.memory := by rw [sameIndices, sameTypes, sameTables]

theorem provided_tables (tabled : s.memory.Tabled) : Keyed.find? (s.provide r options).memory.tables name =
    if name = r.table then some (s.memory.table r) else Keyed.find? s.memory.tables name := by
  cases present : s.memory.typeOf? r with
  | some entry =>
      obtain ⟨t, found⟩ := Option.isSome_iff_exists.mp (tabled.typed r (Option.isSome_of_eq_some present))
      simp only [provide, present, note]
      by_cases same : name = r.table
      · rw [if_pos same, same, Memory.table, found]
        exact found
      · rw [if_neg same]
  | none =>
      have tables := with_index_tables s.memory r.index
      have unchanged : (s.memory.withIndex r.index).table r = s.memory.table r := by
        rw [Memory.table, Memory.table?, tables]
        rfl
      simp only [provide, present, Memory.addType, unchanged, Memory.table_set]
      rw [tables]

end Store

namespace Table

-- A document is taken in unless there is one of its id.
def absorb (t : Table) (d : Document) : Table := if t.hasId d.id then t else t.insert d

variable {t : Table} {d e : Document}

theorem absorb_keeps {id : String} (there : t.hasId id = true) (d : Document) : (t.absorb d).hasId id = true := by
  rw [absorb]
  split
  · exact there
  · rw [has_id] at there ⊢
    simp only [ids, insert, List.map_append, List.mem_append]
    exact Or.inl there

theorem absorb_has (t : Table) (d : Document) : (t.absorb d).hasId d.id = true := by
  rw [absorb]
  split
  · assumption
  · rw [has_id]
    simp [ids, insert]

theorem absorb_all_keeps {id : String} (documents : List Document) (there : t.hasId id = true) :
    (documents.foldl absorb t).hasId id = true := by
  induction documents generalizing t with
  | nil => exact there
  | cons d rest ih => exact ih (absorb_keeps there d)

theorem absorb_all_has (documents : List Document) (t : Table) :
    ∀ d ∈ documents, (documents.foldl absorb t).hasId d.id = true := by
  induction documents generalizing t with
  | nil => simp
  | cons d rest ih =>
      intro e member
      rcases List.mem_cons.mp member with rfl | member
      · exact absorb_all_keeps rest (absorb_has t e)
      · exact ih (t.absorb d) e member

theorem absorb_present {documents : List Document} (there : ∀ d ∈ documents, t.hasId d.id = true) :
    documents.foldl absorb t = t := by
  induction documents with
  | nil => rfl
  | cons d rest ih =>
      obtain ⟨here, later⟩ := List.forall_mem_cons.mp there
      rw [List.foldl_cons, absorb, if_pos here]
      exact ih later

theorem absorb_again (documents : List Document) (t : Table) :
    documents.foldl absorb (documents.foldl absorb t) = documents.foldl absorb t :=
  absorb_present (absorb_all_has documents t)

end Table

namespace Migration

open Mapping (wrapped)
open Store StoreM Store.State

namespace Transfer

def pair? : Transfer → Option Relation
  | mapping index type _ => some ⟨index, type⟩
  | document hit => (place hit.index hit.type ((some hit.id).filter (· ≠ ""))).toOption
  | finished _ => none

def into (name : String) (t : Transfer) : Bool := t.pair?.any fun r => decide (name = r.table)

def described? (r : Relation) : Transfer → Option TypeEntry
  | mapping index type m => if r = ⟨index, type⟩ then some (r.entry (wrapped type m).prettyText) else none
  | document _ | finished _ => none

def documents : Transfer → List Document
  | document hit => [⟨hit.id, stored hit.source, 1⟩]
  | mapping _ _ _ | finished _ => []

def Named : Transfer → Prop
  | document hit => hit.id ≠ ""
  | mapping _ _ _ | finished _ => True

end Transfer

variable {s : State} {t : Transfer} {q r : Relation} {name : String}

theorem carry_nowhere (sound : s.Sound) (nowhere : t.pair? = none) : t.carry s = s := by
  cases t with
  | mapping => cases nowhere
  | finished => rfl
  | document hit =>
      rw [carry_document sound]
      rw [Transfer.pair?] at nowhere
      cases placed : place hit.index hit.type ((some hit.id).filter (· ≠ "")) with
      | error e => rfl
      | ok r =>
          rw [placed] at nowhere
          cases nowhere

theorem pair_of_mapping {index type : String} {m : Json} (about : (Transfer.mapping index type m).pair? = some r) :
    r = ⟨index, type⟩ := (Option.some.inj about).symm

theorem carry_hit (sound : s.Sound) {hit : SourceDocument} (about : (Transfer.document hit).pair? = some r)
    (named : (Transfer.document hit).Named) :
    ∃ known, (Transfer.document hit).carry s = ⟨((s.provide r "").memory.setTable r
      ((s.memory.table r).absorb ⟨hit.id, stored hit.source, 1⟩)), known⟩ := by
  have given : (some hit.id).filter (· ≠ "") = some hit.id := by
    have filled : hit.id ≠ "" := named
    simp [filled]
  rw [Transfer.pair?] at about
  have carried : (Transfer.document hit).carry s = _ := carry_document sound
  cases placed : place hit.index hit.type ((some hit.id).filter (· ≠ "")) with
  | error e =>
      rw [placed] at about
      cases about
  | ok p =>
      rw [placed] at about carried
      cases about
      refine ⟨(s.provide r "").known, carried.trans ?_⟩
      simp only [given, State.insert, provide_table, Table.absorb]
      split <;> rfl

theorem provided_index_or (sound : s.Sound) (options : String) : (s.provide r options).memory.index? name =
    (s.memory.index? name).or (if name = r.index then some ⟨name, ""⟩ else none) := by
  rw [provide_index sound]
  split <;> cases s.memory.index? name <;> rfl

theorem carry_mapping_shows (sound : s.Sound) {index type : String} {m : Json}
    (fits : (Transfer.mapping index type m).Fits) :
    (∀ name, ((Transfer.mapping index type m).carry s).memory.index? name =
        (s.provide ⟨index, type⟩ (wrapped type m).prettyText).memory.index? name) ∧
      ((Transfer.mapping index type m).carry s).memory.tables =
        (s.provide ⟨index, type⟩ (wrapped type m).prettyText).memory.tables ∧
      ∀ q, ((Transfer.mapping index type m).carry s).memory.typeOf? q =
        ((Transfer.mapping index type m).described? q).or (s.memory.typeOf? q) := by
  have valid : Relation.ofNames index type = .ok ⟨index, type⟩ := fits
  rw [carry_mapping sound]
  cases present : s.memory.typeOf? ⟨index, type⟩ with
  | some entry =>
      have provided : s.provide ⟨index, type⟩ (wrapped type m).prettyText = s.note ⟨index, type⟩ := by
        simp only [provide, present]
      rw [provided]
      refine ⟨fun _ => rfl, rfl, fun q => ?_⟩
      by_cases same : q = ⟨index, type⟩
      · simp [Transfer.described?, same, Memory.entry_replaced_same, present]
      · simp [Transfer.described?, same, Memory.entry_replaced_other same]
  | none =>
      simp only [valid, true_and, implies_true]
      intro q
      rw [provide_entry, present, Transfer.described?]
      by_cases same : q = ⟨index, type⟩
      · rw [if_pos same, if_pos same, same]
        rfl
      · rw [if_neg same, if_neg same]
        rfl

theorem carried_index (sound : s.Sound) (fits : t.Fits) (named : t.Named) (name : String) :
    (t.carry s).memory.index? name =
      (s.memory.index? name).or (t.pair?.bind fun r => if name = r.index then some ⟨name, ""⟩ else none) := by
  cases about : t.pair? with
  | none => rw [carry_nowhere sound about, Option.bind_none, Option.or_none]
  | some r =>
      rw [Option.bind_some]
      cases t with
      | finished => cases about
      | mapping index type m =>
          obtain rfl := pair_of_mapping about
          rw [(carry_mapping_shows sound fits).1, provided_index_or sound]
      | document hit =>
          obtain ⟨known, carried⟩ := carry_hit sound about named
          rw [carried, ← provided_index_or sound ""]
          rfl

theorem carried_type (sound : s.Sound) (fits : t.Fits) (named : t.Named) (q : Relation) :
    (t.carry s).memory.typeOf? q =
      (t.described? q).or ((s.memory.typeOf? q).or (t.pair?.bind fun r => if q = r then some (q.entry "") else none)) := by
  cases t with
  | finished => simp [Transfer.described?, Transfer.pair?, Transfer.carry, Transfer.operation?]
  | mapping index type m =>
      rw [(carry_mapping_shows sound fits).2.2, Transfer.described?, Transfer.pair?, Option.bind_some]
      split <;> simp
  | document hit =>
      rw [Transfer.described?, Option.none_or]
      cases about : (Transfer.document hit).pair? with
      | none => rw [carry_nowhere sound about, Option.bind_none, Option.or_none]
      | some r =>
          obtain ⟨known, carried⟩ := carry_hit sound about named
          have entry : (s.provide r "").memory.typeOf? q = _ := provide_entry
          rw [carried, Option.bind_some]
          refine entry.trans ?_
          split
          · rename_i same
            rw [same]
            cases s.memory.typeOf? r <;> rfl
          · rw [Option.or_none]

theorem carried_tables (sound : s.Sound) (tabled : s.memory.Tabled) (fits : t.Fits) (named : t.Named) (name : String) :
    Keyed.find? (t.carry s).memory.tables name =
      if t.into name then some (t.documents.foldl Table.absorb ((Keyed.find? s.memory.tables name).getD .empty))
      else Keyed.find? s.memory.tables name := by
  rw [Transfer.into]
  cases about : t.pair? with
  | none =>
      rw [carry_nowhere sound about]
      rfl
  | some r =>
      have inside : (Option.any (fun r => decide (name = r.table)) (some r) = true) = (name = r.table) := by simp
      simp only [inside]
      cases t with
      | finished => cases about
      | mapping index type m =>
          obtain rfl := pair_of_mapping about
          rw [(carry_mapping_shows sound fits).2.1, provided_tables tabled]
          by_cases same : name = (⟨index, type⟩ : Relation).table
          · rw [if_pos same, if_pos same, same]
            rfl
          · rw [if_neg same, if_neg same]
      | document hit =>
          obtain ⟨known, carried⟩ := carry_hit sound about named
          rw [carried, Memory.table_set, provided_tables tabled]
          by_cases same : name = r.table
          · rw [if_pos same, if_pos same, same]
            rfl
          · rw [if_neg same, if_neg same, if_neg same]

-- Transfers that come to the same in every store: no mapping is unfit, and no hit needs an id.
def Ready (transfers : List Transfer) : Prop := ∀ t ∈ transfers, t.Fits ∧ t.Named

variable {transfers first later : List Transfer}

theorem indices_carried (ready : Ready transfers) (name : String) : ∃ added, ∀ s, Reachable s →
    (transfers.foldl Transfer.carry s).memory.index? name = (s.memory.index? name).or added := by
  induction transfers with
  | nil => exact ⟨none, fun s _ => by simp⟩
  | cons t rest ih =>
      obtain ⟨⟨fits, named⟩, others⟩ := List.forall_mem_cons.mp ready
      obtain ⟨added, run⟩ := ih others
      refine ⟨(t.pair?.bind fun r => if name = r.index then some ⟨name, ""⟩ else none).or added, fun s reachable => ?_⟩
      rw [List.foldl_cons, run _ (carry_reachable t reachable), carried_index (reachable_sound reachable) fits named,
        Option.or_assoc]

theorem types_carried (ready : Ready transfers) (q : Relation) : ∃ replaced filled, ∀ s, Reachable s →
    (transfers.foldl Transfer.carry s).memory.typeOf? q = Option.or replaced ((s.memory.typeOf? q).or filled) := by
  induction transfers with
  | nil => exact ⟨none, none, fun s _ => by simp⟩
  | cons t rest ih =>
      obtain ⟨⟨fits, named⟩, others⟩ := List.forall_mem_cons.mp ready
      obtain ⟨replaced, filled, run⟩ := ih others
      refine ⟨replaced.or (t.described? q), (t.pair?.bind fun r => if q = r then some (q.entry "") else none).or filled,
        fun s reachable => ?_⟩
      rw [List.foldl_cons, run _ (carry_reachable t reachable), carried_type (reachable_sound reachable) fits named]
      simp only [Option.or_assoc]

theorem tables_carried (ready : Ready transfers) (name : String) :
    ∃ documents : Option (List Document), ∀ s, Reachable s →
    Keyed.find? (transfers.foldl Transfer.carry s).memory.tables name =
      match documents with
      | some documents => some (documents.foldl Table.absorb ((Keyed.find? s.memory.tables name).getD .empty))
      | none => Keyed.find? s.memory.tables name := by
  induction transfers with
  | nil => exact ⟨none, fun s _ => rfl⟩
  | cons t rest ih =>
      obtain ⟨⟨fits, named⟩, others⟩ := List.forall_mem_cons.mp ready
      obtain ⟨documents, run⟩ := ih others
      have here (s : State) (reachable : Reachable s) :=
        carried_tables (reachable_sound reachable) (reachable_tabled reachable) fits named name
      cases inside : t.into name with
      | false =>
          refine ⟨documents, fun s reachable => ?_⟩
          rw [List.foldl_cons, run _ (carry_reachable t reachable), here s reachable, inside]
          rfl
      | true =>
          refine ⟨some (t.documents ++ documents.getD []), fun s reachable => ?_⟩
          rw [List.foldl_cons, run _ (carry_reachable t reachable), here s reachable, inside]
          cases documents with
          | none => simp
          | some documents => simp [List.foldl_append]

-- What a part of some transfers has brought before does not show once all of them have been brought.
theorem carried_again (reachable : Reachable s) (ready : Ready (first ++ later)) :
    ((first ++ later).foldl Transfer.carry (first.foldl Transfer.carry s)).memory =
      ((first ++ later).foldl Transfer.carry s).memory := by
  have readyFirst : Ready first := fun t member => ready t (List.mem_append_left _ member)
  have readyLater : Ready later := fun t member => ready t (List.mem_append_right _ member)
  have once := carried_reachable first reachable
  have twice := carried_reachable first once
  rw [List.foldl_append, List.foldl_append]
  refine memory_eq_of_find (carried_reachable later twice) (carried_reachable later once) ?_ ?_ ?_
  · intro name
    obtain ⟨added, run⟩ := indices_carried readyFirst name
    obtain ⟨more, next⟩ := indices_carried readyLater name
    rw [next _ twice, next _ once, run _ once, run _ reachable]
    cases added <;> cases s.memory.index? name <;> rfl
  · intro q
    obtain ⟨replaced, filled, run⟩ := types_carried readyFirst q
    obtain ⟨latest, more, next⟩ := types_carried readyLater q
    rw [next _ twice, next _ once, run _ once, run _ reachable]
    cases replaced <;> cases filled <;> cases s.memory.typeOf? q <;> rfl
  · intro name
    obtain ⟨documents, run⟩ := tables_carried readyFirst name
    obtain ⟨more, next⟩ := tables_carried readyLater name
    rw [next _ twice, next _ once, run _ once, run _ reachable]
    cases documents with
    | none => rfl
    | some documents => simp only [Option.getD_some, Table.absorb_again]

end Migration

end SearchStore

import SearchStore.Proofs.Query.Analyzers
import SearchStore.Proofs.Store.Consistency

/-!
What a migration brings into a store, one transfer after another: the mapping of a type becomes its
options, a document is created unless the store rejects it, and an index has come to its end. The
summary counts them, and counts as many documents as the tables have gained.
-/

set_option autoImplicit false

namespace SearchStore

namespace Keyed

variable {α : Type}

def total (size : α → Nat) : Keyed α → Nat
  | [] => 0
  | (_, value) :: rest => size value + total size rest

theorem total_insert (size : α → Nat) {m : Keyed α} (ordered : Ordered m) (key : String) (value : α) :
    total size (Keyed.insert m key value) + ((Keyed.find? m key).map size).getD 0 = total size m + size value := by
  induction m with
  | nil => simp [Keyed.insert, Keyed.find?, total]
  | cons e rest ih =>
      obtain ⟨k, v⟩ := e
      obtain ⟨first, later⟩ := List.pairwise_cons.mp ordered
      by_cases same : key = k
      · simp only [Keyed.insert, Keyed.find?, same, ↓reduceIte, total, Option.map_some, Option.getD_some]
        omega
      · have others : Keyed.find? ((k, v) :: rest) key = Keyed.find? rest key := by
          rw [Keyed.find?, if_neg (Ne.symm same)]
        rw [others]
        by_cases earlier : Text.before key k = true
        · have absent : Keyed.find? rest key = none := by
            apply find_none_of_before
            intro f member
            exact Text.before_trans earlier (first f member)
          simp only [Keyed.insert, same, earlier, absent, ↓reduceIte, total, Option.map_none, Option.getD_none]
          omega
        · have rest := ih later
          simp only [Keyed.insert, same, earlier, ↓reduceIte, total, Bool.false_eq_true]
          omega

end Keyed

namespace Memory

def size (m : Memory) : Nat := Keyed.total (·.rows.length) m.tables

theorem size_set_table {m : Memory} (ordered : Keyed.Ordered m.tables) (r : Relation) (t : Table) :
    (m.setTable r t).size + (m.table r).rows.length = m.size + t.rows.length := by
  have sum := Keyed.total_insert (fun t : Table => t.rows.length) ordered r.table t
  have held : ((m.table? r).map fun t : Table => t.rows.length).getD 0 = (m.table r).rows.length := by
    rw [table]
    cases m.table? r <;> rfl
  rw [← held]
  exact sum

end Memory

namespace Store

open State

variable {s : State} {r : Relation} {options : String} {source : Json} {id : Option String}

theorem reachable_tabled (reachable : Reachable s) : s.memory.Tabled := by
  obtain ⟨ops, rfl⟩ := reachable
  exact after_tabled ops

theorem size_put (tabled : s.memory.Tabled) (t : Table) :
    (s.put r t).memory.size + (s.memory.table r).rows.length = s.memory.size + t.rows.length :=
  Memory.size_set_table tabled.ordered r t

theorem size_provide (tabled : s.memory.Tabled) : (s.provide r options).memory.size = s.memory.size := by
  rw [provide]
  cases s.memory.typeOf? r with
  | some entry => rfl
  | none =>
      have same : (s.memory.withIndex r.index).tables = s.memory.tables := with_index_tables s.memory r.index
      have unchanged : (s.memory.withIndex r.index).table r = s.memory.table r := by
        rw [Memory.table, Memory.table?, same]
        rfl
      have sum := size_put (r := r) tabled (s.memory.table r)
      simp only [Memory.size, Memory.addType, Memory.setTable, same, unchanged, put] at sum ⊢
      omega

theorem size_insert (tabled : s.memory.Tabled) :
    (s.insert r source id).2.memory.size =
      s.memory.size + (match (s.insert r source id).1 with | .ok _ => 1 | .error _ => 0) := by
  cases id with
  | none =>
      have sum := size_put (r := r) tabled
        { (s.memory.table r).insert ⟨toString (s.memory.table r).nextFree, source, 1⟩ with drawn := (s.memory.table r).nextFree }
      simp only [Table.insert, List.length_append, List.length_singleton] at sum
      simp only [State.insert, Table.insert]
      omega
  | some id =>
      by_cases taken : (s.memory.table r).hasId id = true
      · have sum := size_put (r := r) tabled (s.memory.table r)
        simp only [State.insert, if_pos taken]
        omega
      · have sum := size_put (r := r) tabled ((s.memory.table r).insert ⟨id, source, 1⟩)
        simp only [Table.insert, List.length_append, List.length_singleton] at sum
        simp only [State.insert, if_neg taken, Table.insert]
        omega

end Store

namespace Migration

open Mapping (wrapped)
open Store StoreM Store.State

-- What is stored of a source: an empty object if there is none, and otherwise the source itself.
def stored : Json → Json
  | .null => .object []
  | source => source

theorem document_stored (source : Json) : documentOf source = stored source := by
  cases source <;> rfl

theorem options_of_wrapped (type : String) (m : Json) : optionsText type m = (wrapped type m).prettyText := rfl

inductive Transfer where
  | mapping (index type : String) (mapping : Json)
  | document (hit : SourceDocument)
  | finished (index : String)

namespace Transfer

def operation? (s : State) : Transfer → Option Operation
  | mapping index type m =>
      match s.memory.typeOf? ⟨index, type⟩ with
      | some _ => some (.replaceTypeOptions index type (wrapped type m).prettyText)
      | none => some (.createType index type (wrapped type m).prettyText)
  | document hit => some (.createDocument hit.index hit.type (stored hit.source) (some hit.id))
  | finished _ => none

def carry (s : State) (t : Transfer) : State :=
  match t.operation? s with
  | some op => (op.step s).2
  | none => s

def count (s : State) (n : Summary) : Transfer → Summary
  | mapping _ _ _ => { n with types := n.types + 1 }
  | document hit =>
      match ((createDocument hit.index hit.type (stored hit.source) (some hit.id)).inMemory s).1 with
      | .ok _ => { n with documents := n.documents + 1 }
      | .error _ => { n with failed := n.failed + 1 }
  | finished _ => { n with indices := n.indices + 1 }

-- A mapping that no type can have is the only thing a store ends a migration for.
def Fits : Transfer → Prop
  | mapping index type _ => Relation.ofNames index type = .ok ⟨index, type⟩
  | document _ | finished _ => True

end Transfer

def carryAll (transfers : List Transfer) (n : Summary) (s : State) : Summary × State :=
  transfers.foldl (fun w t => (t.count w.2 w.1, t.carry w.2)) (n, s)

variable {s : State} {n : Summary} {index type : String} {m : Json} {hit : SourceDocument} {t : Transfer}
  {transfers : List Transfer}

theorem carry_all_cons (t : Transfer) (rest : List Transfer) (n : Summary) (s : State) :
    carryAll (t :: rest) n s = carryAll rest (t.count s n) (t.carry s) := rfl

theorem carry_all_append (first later : List Transfer) (n : Summary) (s : State) :
    carryAll (first ++ later) n s = carryAll later (carryAll first n s).1 (carryAll first n s).2 := by
  rw [carryAll, List.foldl_append]
  rfl

theorem carry_all_state (transfers : List Transfer) (n : Summary) (s : State) :
    (carryAll transfers n s).2 = transfers.foldl Transfer.carry s := by
  induction transfers generalizing n s with
  | nil => rfl
  | cons t rest ih => exact ih (t.count s n) (t.carry s)

theorem carry_reachable (t : Transfer) (reachable : Reachable s) : Reachable (t.carry s) := by
  rw [Transfer.carry]
  cases t.operation? s with
  | some op => exact reachable_step op reachable
  | none => exact reachable

theorem carried_reachable (transfers : List Transfer) (reachable : Reachable s) :
    Reachable (transfers.foldl Transfer.carry s) := by
  induction transfers generalizing s with
  | nil => exact reachable
  | cons t rest ih => exact ih (carry_reachable t reachable)

theorem carry_all_reachable (transfers : List Transfer) (n : Summary) (reachable : Reachable s) :
    Reachable (carryAll transfers n s).2 := by
  rw [carry_all_state]
  exact carried_reachable transfers reachable

theorem carry_document (sound : s.Sound) :
    (Transfer.document hit).carry s =
      match place hit.index hit.type ((some hit.id).filter (· ≠ "")) with
      | .error _ => s
      | .ok r => ((s.provide r "").insert r (stored hit.source) ((some hit.id).filter (· ≠ ""))).2 := by
  rw [Transfer.carry, Transfer.operation?]
  dsimp only
  rw [Operation.step, Operation.perform, return_in_memory, create_document_in_memory sound]
  cases place hit.index hit.type ((some hit.id).filter (· ≠ "")) <;> rfl

theorem count_document (sound : s.Sound) :
    (Transfer.document hit).count s n =
      match place hit.index hit.type ((some hit.id).filter (· ≠ "")) with
      | .error _ => { n with failed := n.failed + 1 }
      | .ok r =>
          match ((s.provide r "").insert r (stored hit.source) ((some hit.id).filter (· ≠ ""))).1 with
          | .ok _ => { n with documents := n.documents + 1 }
          | .error _ => { n with failed := n.failed + 1 } := by
  rw [Transfer.count, create_document_in_memory sound]
  cases place hit.index hit.type ((some hit.id).filter (· ≠ "")) <;> rfl

theorem carry_mapping (sound : s.Sound) :
    (Transfer.mapping index type m).carry s =
      match s.memory.typeOf? ⟨index, type⟩ with
      | some _ => ⟨s.memory.replaceOptions ⟨index, type⟩ (wrapped type m).prettyText, s.known⟩
      | none =>
          match Relation.ofNames index type with
          | .error _ => s
          | .ok r => s.provide r (wrapped type m).prettyText := by
  simp only [Transfer.carry, Transfer.operation?]
  cases s.memory.typeOf? ⟨index, type⟩ with
  | some entry => simp only [Operation.step, Operation.perform, return_in_memory, replace_options_in_memory]
  | none =>
      simp only [Operation.step, Operation.perform, return_in_memory, create_type_in_memory sound]
      cases Relation.ofNames index type <;> rfl

theorem mapping_described (sound : s.Sound) (fits : (Transfer.mapping index type m).Fits) :
    ((Transfer.mapping index type m).carry s).memory.typeOf? ⟨index, type⟩ =
      some ⟨type, index, (wrapped type m).prettyText⟩ := by
  have valid : Relation.ofNames index type = .ok ⟨index, type⟩ := fits
  rw [carry_mapping sound]
  cases present : s.memory.typeOf? ⟨index, type⟩ with
  | some there => exact Memory.entry_replaced_same.trans (by rw [present]; rfl)
  | none =>
      simp only [valid]
      exact provide_entry.trans (by rw [if_pos rfl, present]; rfl)

theorem copy_mapping_carries (sound : s.Sound) (fits : (Transfer.mapping index type m).Fits) :
    (copyMapping index type m).inMemory s = (.ok (), (Transfer.mapping index type m).carry s) := by
  rw [carry_mapping sound, copyMapping, options_of_wrapped, bind_in_memory, getType, ask_fetch_type]
  cases present : s.memory.typeOf? ⟨index, type⟩ with
  | some entry =>
      simp only [Option.isSome_some, ↓reduceIte, bind_in_memory, replace_options_in_memory, present, pure_in_memory]
  | none =>
      have valid : Relation.ofNames index type = .ok ⟨index, type⟩ := fits
      simp only [Option.isSome_none, Bool.false_eq_true, ↓reduceIte, bind_in_memory, create_type_in_memory sound, valid,
        present, pure_in_memory]

theorem copy_mapping_refused (sound : s.Sound) (unfit : ¬ (Transfer.mapping index type m).Fits) :
    ∃ e after, (copyMapping index type m).inMemory s = (.error e, after) := by
  have absent : s.memory.typeOf? ⟨index, type⟩ = none := by
    by_contra typed
    exact unfit (sound.named ⟨index, type⟩ (Option.isSome_iff_ne_none.mpr typed))
  rw [copyMapping, bind_in_memory, getType, ask_fetch_type, absent]
  simp only [Option.isSome_none, Bool.false_eq_true, ↓reduceIte, bind_in_memory, create_type_in_memory sound]
  cases valid : Relation.ofNames index type with
  | error e => exact ⟨e, s, rfl⟩
  | ok r =>
      obtain rfl := relation_of_names valid
      exact absurd valid unfit

theorem size_carry (reachable : Reachable s) (t : Transfer) (n : Summary) :
    (t.carry s).memory.size + n.documents = s.memory.size + (t.count s n).documents := by
  have sound := reachable_sound reachable
  have tabled := reachable_tabled reachable
  cases t with
  | finished index => rfl
  | mapping index type m =>
      rw [carry_mapping sound]
      cases s.memory.typeOf? ⟨index, type⟩ with
      | some entry => rfl
      | none =>
          cases Relation.ofNames index type with
          | error e => rfl
          | ok r => exact congrArg (· + n.documents) (size_provide tabled)
  | document hit =>
      rw [carry_document sound, count_document sound]
      cases place hit.index hit.type ((some hit.id).filter (· ≠ "")) with
      | error e => rfl
      | ok r =>
          have grown : ((s.provide r "").insert r (stored hit.source) ((some hit.id).filter (· ≠ ""))).2.memory.size = _ :=
            size_insert (provide_tabled tabled "")
          rw [size_provide tabled] at grown
          dsimp only
          rw [grown]
          cases ((s.provide r "").insert r (stored hit.source) ((some hit.id).filter (· ≠ ""))).1 with
          | ok d => exact Nat.add_right_comm _ 1 _
          | error e => rfl

theorem size_carry_all (reachable : Reachable s) (transfers : List Transfer) (n : Summary) :
    (carryAll transfers n s).2.memory.size + n.documents = s.memory.size + (carryAll transfers n s).1.documents := by
  induction transfers generalizing n s with
  | nil => rfl
  | cons t rest ih =>
      have here := size_carry reachable t n
      have later := ih (carry_reachable t reachable) (t.count s n)
      rw [carry_all_cons]
      omega

end Migration

end SearchStore

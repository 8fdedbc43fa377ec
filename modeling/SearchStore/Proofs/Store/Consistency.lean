import Mathlib.Data.String.Basic
import SearchStore.Proofs.Store.Runs

/-!
What holds of the catalog, of the tables and of the noted relations after any run. Every type has its
table and every table a type, what is noted agrees with both, and the ids of a table are in order.
-/

set_option autoImplicit false

namespace SearchStore

namespace Memory

variable {m : Memory} {q r : Relation}

structure Tabled (m : Memory) : Prop where
  ordered : Keyed.Ordered m.tables
  typed : ∀ q, (m.typeOf? q).isSome → (m.table? q).isSome

theorem set_table_keeps (t : Table) (there : (m.table? q).isSome) : ((m.setTable r t).table? q).isSome := by
  rw [table?, table_set]
  split
  · rfl
  · exact there

theorem find_by_names {types : List TypeEntry} {t : TypeEntry} (ordered : TypesOrdered types) (member : t ∈ types) :
    types.find? (fun u => u.index == t.index && u.name == t.name) = some t := by
  induction types with
  | nil => cases member
  | cons u rest ih =>
      obtain ⟨first, later⟩ := List.pairwise_cons.mp ordered
      rcases List.mem_cons.mp member with rfl | member
      · exact List.find?_cons_of_pos (by simp)
      · have other : (u.index == t.index && u.name == t.name) = false := by
          by_contra same
          rw [Bool.not_eq_false, Bool.and_eq_true, beq_iff_eq, beq_iff_eq] at same
          have before := first t member
          simp [typeBefore, same, Text.before, Text.precedes_irrefl] at before
        rw [List.find?_cons, other]
        exact ih later member

end Memory

namespace Store

open State

variable {s s' : State} {r : Relation} {about : Option Relation} {deed : Option (Relation × Deed)}

theorem put_tabled (tabled : s.memory.Tabled) (t : Table) : (s.put r t).memory.Tabled where
  ordered := Keyed.insert_ordered r.table t tabled.ordered
  typed q typed := Memory.set_table_keeps t (tabled.typed q typed)

theorem provide_tabled (tabled : s.memory.Tabled) (options : String) : (s.provide r options).memory.Tabled := by
  cases present : s.memory.typeOf? r with
  | some entry =>
      rw [provide, present]
      exact tabled
  | none =>
      have entries (q : Relation) : (s.provide r options).memory.typeOf? q = _ := provide_entry
      rw [provide, present] at entries ⊢
      constructor
      · change Keyed.Ordered (Keyed.insert (s.memory.withIndex r.index).tables r.table _)
        rw [with_index_tables]
        exact Keyed.insert_ordered _ _ tabled.ordered
      · intro q typed
        by_cases same : q = r
        · rw [same, Memory.table?, Memory.addType, Memory.table_set, if_pos rfl]
          rfl
        · rw [entries, if_neg same] at typed
          apply Memory.set_table_keeps
          rw [Memory.table?, with_index_tables]
          exact tabled.typed q typed

theorem effect_tabled (effect : Effect s about s' deed) (tabled : s.memory.Tabled) : s'.memory.Tabled := by
  cases effect with
  | nothing s' same =>
      rw [same]
      exact tabled
  | index name options => exact ⟨tabled.ordered, tabled.typed⟩
  | type r options named => exact provide_tabled tabled options
  | options r options =>
      refine ⟨tabled.ordered, ?_⟩
      intro q typed
      rw [Memory.entry_replaced, Option.isSome_map] at typed
      exact tabled.typed q typed
  | refusal r named => exact put_tabled (provide_tabled tabled "") _
  | deed r d named fits => exact put_tabled (provide_tabled tabled "") _

theorem after_tabled (ops : List Operation) : (after ops).memory.Tabled := by
  induction ops using List.reverseRecOn with
  | nil =>
      refine ⟨.nil, ?_⟩
      intro q typed
      cases typed
  | append_singleton ops op ih =>
      rw [after_snoc]
      exact effect_tabled (step_effect (after_sound ops) op) ih

theorem digits_bytes {digits : List Char} (all : ∀ c ∈ digits, c.isDigit = true) :
    String.utf8Len digits = digits.length := by
  induction digits with
  | nil => rfl
  | cons c rest ih =>
      obtain ⟨digit, later⟩ := List.forall_mem_cons.mp all
      have single : c.utf8Size = 1 := by
        rw [Char.utf8Size_eq_one_iff]
        exact Nat.le_trans (Char.isDigit_iff_toNat.mp digit).2 (by decide)
      rw [String.utf8Len_cons, single, ih later, List.length_cons]

theorem decimal_bytes (n : Nat) : (toString n).utf8ByteSize = (Nat.toDigits 10 n).length := by
  rw [Nat.toString_eq_ofList_toDigits, String.utf8ByteSize_ofList]
  exact digits_bytes fun c member => Nat.isDigit_of_mem_toDigits (by decide) (by decide) member

theorem accepted_id_bytes {id : String} (accepted : checkId id = .ok ()) : id.utf8ByteSize ≤ maxIdLength := by
  rw [checkId] at accepted
  split at accepted
  · assumption
  · cases accepted

-- What the deeds done in a table keep true of it.
structure WellKept (h : List Deed) (t : Table) : Prop where
  distinct : t.Distinct
  filled : ∀ d ∈ t.rows, d.id ≠ ""
  -- The last number drawn is a word of 64 bits, and never more than the operations there were.
  short : t.drawn < UInt64.size → ∀ d ∈ t.rows, d.id.utf8ByteSize ≤ maxIdLength
  positive : ∀ d ∈ t.rows, 1 ≤ d.version
  counted : ∀ id ∈ issued h, ∃ n ≤ t.drawn, id = toString n
  once : (issued h).Nodup

theorem made_well_kept {h : List Deed} {t : Table} (made : Made h t) : WellKept h t where
  distinct := made_distinct made
  filled d member := (made_rows made d member).1
  positive d member := (made_rows made d member).2.1
  counted := made_issued made
  once := issued_once made
  short := by
    intro word d member
    rcases (made_rows made d member).2.2 with accepted | ⟨n, drawn, text⟩
    · exact accepted_id_bytes accepted
    · rw [text, decimal_bytes, Nat.length_toDigits_le_iff (by decide) (by decide)]
      calc n
        _ ≤ t.drawn := drawn
        _ < UInt64.size := word
        _ ≤ 10 ^ maxIdLength := by decide

-- The tables, then the types, then what ties both together and what the store has noted of them.
structure Consistent (ops : List Operation) : Prop where
  tables : ∀ name t, (name, t) ∈ (after ops).memory.tables → WellKept (deedsIn name ops) t
  drawn : ∀ name t, (name, t) ∈ (after ops).memory.tables → t.drawn ≤ ops.length
  keyed : ∀ t ∈ (after ops).memory.types, (after ops).memory.type? t.index t.name = some t
  named : ∀ t ∈ (after ops).memory.types, Relation.ofNames t.index t.name = .ok ⟨t.index, t.name⟩
  indexed : ∀ t ∈ (after ops).memory.types, ((after ops).memory.index? t.index).isSome
  tabled : ∀ t ∈ (after ops).memory.types, ((after ops).memory.table? ⟨t.index, t.name⟩).isSome
  owned : ∀ name t, (name, t) ∈ (after ops).memory.tables →
    ∃ entry ∈ (after ops).memory.types, Relation.table ⟨entry.index, entry.name⟩ = name
  noted : ∀ index type r, (after ops).known.find? index type = some r →
    ((after ops).memory.type? index type).isSome ∧ Relation.ofNames index type = .ok r

theorem owner_of_table (ops : List Operation) {name : String} {t : Table}
    (there : (name, t) ∈ (after ops).memory.tables) :
    ∃ r, ((after ops).memory.typeOf? r).isSome ∧ r.table = name ∧ (after ops).memory.table r = t := by
  have found := Keyed.find_of_member (after_tabled ops).ordered there
  obtain ⟨r, typed, named⟩ := (after_sound ops).owned name (Option.isSome_of_eq_some found)
  refine ⟨r, typed, named, ?_⟩
  rw [Memory.table, Memory.table?, named, found]
  rfl

theorem typed_entry (ops : List Operation) {t : TypeEntry} (member : t ∈ (after ops).memory.types) :
    (after ops).memory.typeOf? ⟨t.index, t.name⟩ = some t :=
  Memory.find_by_names (after_sound ops).typesOrdered member

/-- Whatever the operations were, the catalog and the tables are consistent in the end. -/
theorem every_run_consistent (ops : List Operation) : Consistent ops := by
  have sound := after_sound ops
  have typed (t : TypeEntry) (member : t ∈ (after ops).memory.types) :
      ((after ops).memory.typeOf? ⟨t.index, t.name⟩).isSome := Option.isSome_of_eq_some (typed_entry ops member)
  constructor
  case keyed => exact fun t => typed_entry ops
  case named => exact fun t member => sound.named ⟨t.index, t.name⟩ (typed t member)
  case indexed => exact fun t member => sound.indexed ⟨t.index, t.name⟩ (typed t member)
  case tabled => exact fun t member => (after_tabled ops).typed ⟨t.index, t.name⟩ (typed t member)
  case tables =>
    intro name t there
    obtain ⟨r, -, rfl, rfl⟩ := owner_of_table ops there
    exact made_well_kept (table_made ops r)
  case drawn =>
    intro name t there
    obtain ⟨r, -, rfl, rfl⟩ := owner_of_table ops there
    calc ((after ops).memory.table r).drawn
      _ ≤ (deedsIn r.table ops).length := made_drawn (table_made ops r)
      _ ≤ (deeds ops).length := by
        rw [deedsIn, deedsWhere, List.length_map]
        exact List.length_filter_le _ _
      _ ≤ ops.length := deeds_length ops
  case owned =>
    intro name t there
    obtain ⟨r, present, here, -⟩ := owner_of_table ops there
    obtain ⟨entry, found⟩ := Option.isSome_iff_exists.mp present
    obtain ⟨member, index, type⟩ := Memory.entry_of_find found
    refine ⟨entry, member, ?_⟩
    rw [index, type]
    exact here
  case noted =>
    intro index type r found
    obtain ⟨rfl, member⟩ := KnownRelations.find_known found
    have present := sound.noted ⟨index, type⟩ member
    exact ⟨present, sound.named ⟨index, type⟩ present⟩

end Store

end SearchStore

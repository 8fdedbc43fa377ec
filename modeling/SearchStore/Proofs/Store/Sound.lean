import SearchStore.Proofs.Store.Catalog
import SearchStore.Proofs.Store.Rows
import SearchStore.Proofs.Store.State

/-!
Sound states: the lists are in order, every type has names fit for a relation and an index, every
relation noted has a type, every table belongs to a type, and ids are distinct within a table. Each
of the few ways in which operations change a state keeps it sound.
-/

set_option autoImplicit false

namespace SearchStore

namespace KnownRelations

variable {g : KnownRelations} {q r : Relation}

theorem find_known {index type : String} (found : g.find? index type = some r) :
    r = ⟨index, type⟩ ∧ r ∈ g.relations := by
  have holds := List.find?_some found
  simp only [Bool.and_eq_true, beq_iff_eq] at holds
  refine ⟨?_, List.mem_of_find?_eq_some found⟩
  cases r
  simp only [Relation.mk.injEq]
  exact holds

theorem insert_known (found : g.find? r.index r.type = some q) : g.insert r = g := by
  simp [insert, found]

theorem insert_finds (g : KnownRelations) (r : Relation) : (g.insert r).find? r.index r.type = some r := by
  cases found : g.find? r.index r.type with
  | some q => rw [insert_known found, found, (find_known found).1]
  | none =>
      simp only [insert, find?] at found ⊢
      simp [List.find?_append, found]

theorem mem_insert (member : q ∈ (g.insert r).relations) : q = r ∨ q ∈ g.relations := by
  rw [insert] at member
  split at member
  · exact Or.inr member
  · simpa [or_comm] using member

end KnownRelations

namespace Store.State

def note (s : State) (r : Relation) : State := ⟨s.memory, s.known.insert r⟩

def provide (s : State) (r : Relation) (options : String) : State :=
  match s.memory.typeOf? r with
  | some _ => s.note r
  | none => ⟨(s.memory.withIndex r.index).addType r options, s.known.insert r⟩

def put (s : State) (r : Relation) (t : Table) : State := ⟨s.memory.setTable r t, s.known⟩

def touch (s : State) (r : Relation) : State :=
  match s.memory.typeOf? r with
  | some _ => s.note r
  | none => s

theorem touch_memory (s : State) (r : Relation) : (s.touch r).memory = s.memory := by
  rw [touch]
  cases s.memory.typeOf? r <;> rfl

-- The documents of a pair. A table without a type is not looked at.
def rows (s : State) (r : Relation) : List Document :=
  match s.memory.typeOf? r with
  | some _ => (s.memory.table r).rows
  | none => []

def find? (s : State) (r : Relation) (id : String) : Option Document := (s.rows r).find? (·.id == id)

structure Sound (s : State) : Prop where
  indicesOrdered : Keyed.Ordered s.memory.indices
  typesOrdered : Memory.TypesOrdered s.memory.types
  named : ∀ r, (s.memory.typeOf? r).isSome → Relation.ofNames r.index r.type = .ok r
  indexed : ∀ r, (s.memory.typeOf? r).isSome → (s.memory.index? r.index).isSome
  noted : ∀ r ∈ s.known.relations, (s.memory.typeOf? r).isSome
  owned : ∀ name, (Keyed.find? s.memory.tables name).isSome → ∃ r, (s.memory.typeOf? r).isSome ∧ r.table = name
  distinct : ∀ r, (s.memory.table r).Distinct

variable {s : State} {q r : Relation} {options : String}

theorem with_index_entry (m : Memory) (name : String) : (m.withIndex name).typeOf? q = m.typeOf? q := by
  rw [Memory.withIndex]
  split <;> rfl

theorem with_index_tables (m : Memory) (name : String) : (m.withIndex name).tables = m.tables := by
  rw [Memory.withIndex]
  split <;> rfl

theorem with_index_index (m : Memory) (name key : String) : (m.withIndex name).index? key =
    if key = name then some ((m.index? key).getD ⟨key, ""⟩) else m.index? key := by
  cases present : m.index? name with
  | some entry =>
      rw [Memory.withIndex, present]
      by_cases same : key = name
      · rw [if_pos same, same, present]
        rfl
      · rw [if_neg same]
  | none =>
      rw [Memory.withIndex, present]
      simp only [Memory.index_added]
      by_cases same : key = name
      · rw [if_pos same, if_pos same, same, present]
        rfl
      · rw [if_neg same, if_neg same]

theorem provide_entry : (s.provide r options).memory.typeOf? q =
    if q = r then some ((s.memory.typeOf? r).getD (r.entry options)) else s.memory.typeOf? q := by
  cases present : s.memory.typeOf? r with
  | some t =>
      rw [provide, present]
      by_cases same : q = r
      · simp [note, same, present]
      · simp [note, same]
  | none =>
      rw [provide, present]
      by_cases same : q = r
      · subst same
        rw [if_pos rfl]
        exact Memory.entry_added_same ((with_index_entry _ _).trans present)
      · rw [if_neg same]
        exact (Memory.entry_added_other same).trans (with_index_entry _ _)

theorem provide_table : (s.provide r options).memory.table q = s.memory.table q := by
  rw [provide]
  split
  · rfl
  · have unchanged (p : Relation) : (s.memory.withIndex r.index).table p = s.memory.table p := by
      rw [Memory.table, Memory.table?, with_index_tables]
      rfl
    by_cases shared : q.table = r.table
    · rw [Memory.table_shared _ shared, Memory.table_shared _ shared]
      exact (Memory.table_set_same _).trans (unchanged r)
    · exact (Memory.table_set_other _ shared).trans (unchanged q)

theorem provide_index (sound : s.Sound) (name : String) : (s.provide r options).memory.index? name =
    if name = r.index then some ((s.memory.index? name).getD ⟨name, ""⟩) else s.memory.index? name := by
  cases present : s.memory.typeOf? r with
  | none =>
      rw [provide, present]
      exact with_index_index s.memory r.index name
  | some t =>
      rw [provide, present]
      by_cases same : name = r.index
      · obtain ⟨entry, there⟩ := Option.isSome_iff_exists.mp (sound.indexed r (Option.isSome_of_eq_some present))
        rw [if_pos same, same, there]
        exact there
      · rw [if_neg same]
        rfl

-- The table of the pair is that of no other pair with a type.
def Unshared (s : State) (r : Relation) : Prop := ∀ p, (s.memory.typeOf? p).isSome → p.table = r.table → p = r

theorem untyped_untabled (sound : s.Sound) (unshared : s.Unshared r) (untyped : s.memory.typeOf? r = none) :
    s.memory.table? r = none := by
  by_contra there
  obtain ⟨p, typed, named⟩ := sound.owned r.table (Option.isSome_iff_ne_none.mpr there)
  rw [unshared p typed named, untyped] at typed
  cases typed

theorem sound_fresh : State.fresh.Sound where
  indicesOrdered := .nil
  typesOrdered := .nil
  named r present := by cases present
  indexed r present := by cases present
  noted r member := by cases member
  owned name present := by cases present
  distinct r := Table.empty_distinct

theorem sound_note (sound : s.Sound) (present : (s.memory.typeOf? r).isSome) : (s.note r).Sound := by
  refine { sound with noted := ?_ }
  intro q member
  rcases KnownRelations.mem_insert member with rfl | member
  · exact present
  · exact sound.noted q member

theorem sound_provide (sound : s.Sound) (valid : Relation.ofNames r.index r.type = .ok r) :
    (s.provide r options).Sound := by
  cases present : s.memory.typeOf? r with
  | some t =>
      rw [provide, present]
      exact sound_note sound (Option.isSome_of_eq_some present)
  | none =>
      have entries (q : Relation) : (s.provide r options).memory.typeOf? q = _ := provide_entry
      have tables (q : Relation) : (s.provide r options).memory.table q = _ := provide_table
      rw [provide, present] at entries tables ⊢
      have kept (q : Relation) (here : (s.memory.typeOf? q).isSome) :
          (((s.memory.withIndex r.index).addType r options).typeOf? q).isSome := by
        rw [entries]
        split
        · rfl
        · exact here
      have origin (q : Relation) (here : (((s.memory.withIndex r.index).addType r options).typeOf? q).isSome) :
          q = r ∨ (s.memory.typeOf? q).isSome := by
        by_cases same : q = r
        · exact Or.inl same
        · rw [entries, if_neg same] at here
          exact Or.inr here
      constructor
      · change Keyed.Ordered (s.memory.withIndex r.index).indices
        rw [Memory.withIndex]
        split
        · exact sound.indicesOrdered
        · exact Keyed.insert_ordered _ _ sound.indicesOrdered
      · apply Memory.insert_type_ordered
        · rw [Memory.withIndex]
          split <;> exact sound.typesOrdered
        · exact Memory.entry_absent.mp ((with_index_entry _ _).trans present)
      · intro q here
        rcases origin q here with rfl | here
        · exact valid
        · exact sound.named q here
      · intro q here
        refine (congrArg Option.isSome (with_index_index s.memory r.index q.index)).trans ?_
        split
        · rfl
        · rename_i apart
          rcases origin q here with rfl | here
          · exact absurd rfl apart
          · exact sound.indexed q here
      · intro q member
        rcases KnownRelations.mem_insert member with rfl | member
        · rw [entries, if_pos rfl]
          rfl
        · exact kept q (sound.noted q member)
      · intro name here
        by_cases mine : name = r.table
        · refine ⟨r, ?_, mine.symm⟩
          rw [entries, if_pos rfl]
          rfl
        · simp only [Memory.addType, Memory.table_set, if_neg mine, with_index_tables] at here
          obtain ⟨q, there, named⟩ := sound.owned name here
          exact ⟨q, kept q there, named⟩
      · intro q
        rw [tables]
        exact sound.distinct q

theorem sound_put (sound : s.Sound) (present : (s.memory.typeOf? r).isSome) {t : Table} (distinct : t.Distinct) :
    (s.put r t).Sound := by
  refine { sound with owned := ?_, distinct := ?_ }
  · intro name here
    by_cases mine : name = r.table
    · exact ⟨r, present, mine.symm⟩
    · rw [put, Memory.table_set, if_neg mine] at here
      exact sound.owned name here
  · intro q
    by_cases shared : q.table = r.table
    · rw [put, Memory.table_shared _ shared, Memory.table_set_same]
      exact distinct
    · rw [put, Memory.table_set_other t shared]
      exact sound.distinct q

theorem sound_add_index (sound : s.Sound) (name options : String) : Sound ⟨s.memory.addIndex name options, s.known⟩ := by
  refine { sound with indicesOrdered := Keyed.insert_ordered _ _ sound.indicesOrdered, indexed := ?_ }
  intro r here
  simp only [Memory.index_added]
  split
  · rfl
  · exact sound.indexed r here

theorem sound_replace_options (sound : s.Sound) (r : Relation) (options : String) :
    Sound ⟨s.memory.replaceOptions r options, s.known⟩ := by
  have entries (q : Relation) : ((s.memory.replaceOptions r options).typeOf? q).isSome = (s.memory.typeOf? q).isSome := by
    rw [Memory.entry_replaced, Option.isSome_map]
  constructor
  · exact sound.indicesOrdered
  · exact Memory.replace_options_ordered _ _ _ sound.typesOrdered
  · exact fun q here => sound.named q (by rwa [entries] at here)
  · exact fun q here => sound.indexed q (by rwa [entries] at here)
  · exact fun q member => (entries q).trans (sound.noted q member)
  · intro name here
    obtain ⟨q, there, named⟩ := sound.owned name here
    exact ⟨q, (entries q).trans there, named⟩
  · exact sound.distinct

end Store.State

end SearchStore

import SearchStore.Proofs.Store.Runs

/-!
The options of indices and types are kept and given back, and nothing is read from them. A store that
is given other options does the same in every other respect: with the options left out of its operations
it answers the same but for options, and its memory is the same but for options.
-/

set_option autoImplicit false

namespace SearchStore

def IndexEntry.bare (entry : IndexEntry) : IndexEntry := { entry with options := "" }

def TypeEntry.bare (entry : TypeEntry) : TypeEntry := { entry with options := "" }

theorem Keyed.insert_map {α β : Type} (f : α → β) (m : Keyed α) (key : String) (value : α) :
    Keyed.insert (m.map fun e => (e.1, f e.2)) key (f value) = (Keyed.insert m key value).map fun e => (e.1, f e.2) := by
  induction m with
  | nil => rfl
  | cons e rest ih =>
      by_cases same : key = e.1
      · simp [Keyed.insert, same]
      · by_cases earlier : Text.before key e.1 = true
        · simp [Keyed.insert, same, earlier]
        · simp [Keyed.insert, same, earlier, ih]

namespace Memory

def bare (m : Memory) : Memory :=
  { m with indices := m.indices.map fun e => (e.1, e.2.bare), types := m.types.map TypeEntry.bare }

variable {r : Relation}

theorem index_bare (m : Memory) (name : String) : m.bare.index? name = (m.index? name).map IndexEntry.bare :=
  Keyed.find_map IndexEntry.bare m.indices name

theorem entry_bare (m : Memory) (r : Relation) : m.bare.typeOf? r = (m.typeOf? r).map TypeEntry.bare := by
  rw [typeOf?, type?, bare, List.find?_map]
  rfl

theorem entry_present_bare (m : Memory) (r : Relation) : (m.bare.typeOf? r).isSome = (m.typeOf? r).isSome := by
  rw [entry_bare, Option.isSome_map]

theorem listed_bare (m : Memory) : Keyed.keys m.bare.indices = Keyed.keys m.indices := by
  rw [bare, Keyed.keys, List.map_map]
  rfl

theorem types_listed_bare (m : Memory) (index : String) :
    Keyed.keys (m.bare.typesOf index) = Keyed.keys (m.typesOf index) := by
  simp only [typesOf, Keyed.keys, bare, List.filter_map, List.map_map]
  rfl

theorem indices_served_bare (m : Memory) (pattern : Pattern) :
    (m.bare.serve (.listIndices pattern)).1 = (m.serve (.listIndices pattern)).1 :=
  congrArg (List.filter pattern.accepts) m.listed_bare

theorem types_served_bare (m : Memory) (index : String) (pattern : Pattern) :
    (m.bare.serve (.listTypes index pattern)).1 = (m.serve (.listTypes index pattern)).1 := by
  rw [listed_types, listed_types, types_listed_bare]

theorem insert_type_bare (entry : TypeEntry) (types : List TypeEntry) :
    insertType entry.bare (types.map TypeEntry.bare) = (insertType entry types).map TypeEntry.bare := by
  induction types with
  | nil => rfl
  | cons t rest ih =>
      have order : typeBefore entry.bare t.bare = typeBefore entry t := rfl
      rw [List.map_cons, insertType, insertType, order]
      split
      · rfl
      · rw [ih, List.map_cons]

theorem set_options_bare (index name options : String) (t : TypeEntry) :
    (setOptions index name options t).bare = setOptions index name "" t.bare := by
  have named : (t.bare.index == index && t.bare.name == name) = (t.index == index && t.name == name) := rfl
  rw [setOptions, setOptions, named]
  split <;> rfl

theorem add_index_bare (m : Memory) (name options : String) : (m.addIndex name options).bare = m.bare.addIndex name "" := by
  have indices := Keyed.insert_map IndexEntry.bare m.indices name ⟨name, options⟩
  rw [addIndex, bare, ← indices]
  rfl

theorem with_index_bare (m : Memory) (name : String) : (m.withIndex name).bare = m.bare.withIndex name := by
  rw [withIndex, withIndex, index_bare]
  cases m.index? name with
  | some entry => rfl
  | none => exact add_index_bare m name ""

theorem add_type_bare (m : Memory) (r : Relation) (options : String) : (m.addType r options).bare = m.bare.addType r "" := by
  have types := insert_type_bare (r.entry options) m.types
  rw [addType, bare, setTable, ← types]
  rfl

theorem replace_options_bare (m : Memory) (r : Relation) (options : String) :
    (m.replaceOptions r options).bare = m.bare.replaceOptions r "" := by
  rw [replaceOptions, bare, replaceOptions, bare, List.map_map, List.map_map]
  exact congrArg (Memory.mk _ · _) (List.map_congr_left fun t _ => set_options_bare r.index r.type options t)

end Memory

namespace Store

namespace State

def bare (s : State) : State := ⟨s.memory.bare, s.known⟩

variable {s : State} {r : Relation}

theorem memory_bare (s : State) : s.bare.memory = s.memory.bare := rfl

theorem rows_bare (s : State) (r : Relation) : s.bare.rows r = s.rows r := by
  rw [rows, rows, bare, Memory.entry_bare]
  cases s.memory.typeOf? r <;> rfl

theorem find_bare (s : State) (r : Relation) (id : String) : s.bare.find? r id = s.find? r id := by
  rw [find?, find?, rows_bare]

theorem touch_bare (s : State) (r : Relation) : (s.touch r).bare = s.bare.touch r := by
  rw [touch, touch, bare, bare, Memory.entry_bare]
  cases s.memory.typeOf? r <;> rfl

theorem provide_bare (s : State) (r : Relation) (options : String) : (s.provide r options).bare = s.bare.provide r "" := by
  rw [provide, provide, bare, bare, Memory.entry_bare]
  cases s.memory.typeOf? r with
  | some entry => rfl
  | none => exact congrArg (State.mk · _) ((Memory.add_type_bare _ r options).trans
      (congrArg (Memory.addType · r "") (Memory.with_index_bare s.memory r.index)))

theorem insert_bare (s : State) (r : Relation) (source : Json) (id : Option String) :
    s.bare.insert r source id = ((s.insert r source id).1, (s.insert r source id).2.bare) := by
  cases id with
  | none => rfl
  | some id =>
      have same : s.bare.memory.table r = s.memory.table r := rfl
      rw [insert, insert, same]
      split <;> rfl

theorem sound_bare (sound : s.Sound) : s.bare.Sound where
  indicesOrdered := Keyed.map_ordered IndexEntry.bare sound.indicesOrdered
  typesOrdered := List.pairwise_map.mpr sound.typesOrdered
  named q typed := sound.named q (by rwa [bare, Memory.entry_present_bare] at typed)
  indexed q typed := by
    rw [bare, Memory.entry_present_bare] at typed
    rw [bare, Memory.index_bare, Option.isSome_map]
    exact sound.indexed q typed
  noted q member := by
    rw [bare, Memory.entry_present_bare]
    exact sound.noted q member
  owned name there := by
    obtain ⟨q, typed, named⟩ := sound.owned name there
    exact ⟨q, by rwa [bare, Memory.entry_present_bare], named⟩
  distinct := sound.distinct

end State

namespace Operation

def bare : Operation → Operation
  | .createIndex name _ => .createIndex name ""
  | .createType index name _ => .createType index name ""
  | .replaceTypeOptions index name _ => .replaceTypeOptions index name ""
  | op => op

end Operation

namespace Outcome

def bare : Outcome → Outcome
  | .index entry => .index entry.bare
  | .foundIndex entry => .foundIndex (entry.map IndexEntry.bare)
  | .type entry => .type entry.bare
  | .foundType entry => .foundType (entry.map TypeEntry.bare)
  | outcome => outcome

end Outcome

def Result.bare (result : Result) : Result := result.map Outcome.bare

open State StoreM

variable {s : State}

theorem step_bare (sound : s.Sound) (op : Operation) : op.bare.step s.bare = ((op.step s).1.bare, (op.step s).2.bare) := by
  have bareSound := sound_bare sound
  cases op with
  | createCatalog => rfl
  | createIndex name options =>
      simp only [Operation.bare, Operation.step, Operation.perform, return_in_memory, create_index_in_memory]
      cases checkIndexName name with
      | error e => rfl
      | ok =>
          rw [memory_bare, Memory.index_bare]
          cases s.memory.index? name with
          | some entry => rfl
          | none =>
              rw [Option.map_none, ← Memory.add_index_bare s.memory name options]
              rfl
  | getIndex name =>
      exact congrArg (fun entry => ((.ok (.foundIndex entry) : Result), s.bare)) (Memory.index_bare s.memory name)
  | findIndices pattern =>
      exact congrArg (fun names => ((.ok (.names names) : Result), s.bare)) (Memory.indices_served_bare s.memory _)
  | createType index type options =>
      simp only [Operation.bare, Operation.step, Operation.perform, return_in_memory, create_type_in_memory sound,
        create_type_in_memory bareSound]
      cases Relation.ofNames index type with
      | error e => rfl
      | ok r =>
          simp only [← provide_bare s r options, memory_bare, Memory.entry_bare]
          cases s.memory.typeOf? r <;> rfl
  | getType index type =>
      exact congrArg (fun entry => ((.ok (.foundType entry) : Result), s.bare)) (Memory.entry_bare s.memory ⟨index, type⟩)
  | replaceTypeOptions index type options =>
      simp only [Operation.bare, Operation.step, Operation.perform, return_in_memory, replace_options_in_memory,
        memory_bare, ← Memory.replace_options_bare _ _ options, Memory.entry_bare]
      cases s.memory.typeOf? ⟨index, type⟩ <;> rfl
  | findTypes index pattern =>
      exact congrArg (fun names => ((.ok (.names names) : Result), s.bare)) (Memory.types_served_bare s.memory index _)
  | createDocument index type source id =>
      simp only [Operation.bare, Operation.step, Operation.perform, return_in_memory, create_document_in_memory sound,
        create_document_in_memory bareSound]
      cases place index type (id.filter (· ≠ "")) with
      | error e => rfl
      | ok r =>
          simp only [← provide_bare s r "", insert_bare]
          cases ((s.provide r "").insert r source (id.filter (· ≠ ""))).1 <;> rfl
  | getDocument index type id =>
      simp only [Operation.bare, Operation.step, Operation.perform, return_in_memory, get_document_in_memory sound,
        get_document_in_memory bareSound, find_bare, ← touch_bare]
      split <;> rfl
  | documentExists index type id =>
      simp only [Operation.bare, Operation.step, Operation.perform, return_in_memory, document_exists_in_memory sound,
        document_exists_in_memory bareSound, find_bare, ← touch_bare]
      split <;> rfl
  | updateDocument index type source id =>
      simp only [Operation.bare, Operation.step, Operation.perform, return_in_memory, update_document_in_memory sound,
        update_document_in_memory bareSound, find_bare, ← touch_bare]
      split
      · rfl
      · cases s.find? ⟨index, type⟩ id <;> rfl
  | deleteDocument index type id =>
      simp only [Operation.bare, Operation.step, Operation.perform, return_in_memory, delete_document_in_memory sound,
        delete_document_in_memory bareSound, find_bare, ← touch_bare]
      split
      · rfl
      · cases s.find? ⟨index, type⟩ id <;> rfl
  | select index type predicate =>
      simp only [Operation.bare, Operation.step, Operation.perform, return_in_memory, select_in_memory sound,
        select_in_memory bareSound, rows_bare, ← touch_bare]
      rfl

theorem play_bare (ops : List Operation) (sound : s.Sound) :
    play Operation.step (ops.map Operation.bare) s.bare =
      ((play Operation.step ops s).1.map Result.bare, (play Operation.step ops s).2.bare) := by
  induction ops generalizing s with
  | nil => rfl
  | cons op rest ih =>
      have later := ih (step_sound op sound)
      simp only [List.map_cons, play, step_bare sound op, later]

theorem after_bare (ops : List Operation) : after (ops.map Operation.bare) = (after ops).bare :=
  congrArg Prod.snd (play_bare ops sound_fresh)

theorem alike_histories {ops ops' : List Operation} (alike : ops.map Operation.bare = ops'.map Operation.bare) :
    (after ops).memory.bare = (after ops').memory.bare := by
  have same : (after ops).bare = (after ops').bare := by rw [← after_bare, ← after_bare, alike]
  exact congrArg State.memory same

end Store

end SearchStore

import SearchStore.Proofs.Store.Operation
import SearchStore.Proofs.Store.Sound

/-!
What each operation answers and leaves behind in a sound state. Which relations had been noted does
not show in any answer, and a sound state stays sound.
-/

set_option autoImplicit false

namespace SearchStore

namespace Store.State

open StoreM

variable {s : State}

theorem ask_insert_index (name options : String) (s : State) :
    @inMemory (Option IndexEntry) (ask (.insertIndex name options)) s =
      match s.memory.index? name with
      | some _ => (.ok none, s)
      | none => (.ok (some ⟨name, options⟩), ⟨s.memory.addIndex name options, s.known⟩) := by
  refine (ask_in_memory (.insertIndex name options) s).trans ?_
  rw [Memory.serve]
  cases s.memory.index? name <;> rfl

theorem ask_insert_missing_index (name : String) (s : State) :
    ∃ inserted, @inMemory (Option IndexEntry) (ask (.insertIndex name "")) s =
      (.ok inserted, ⟨s.memory.withIndex name, s.known⟩) := by
  rw [ask_insert_index, Memory.withIndex]
  cases s.memory.index? name <;> exact ⟨_, rfl⟩

theorem ask_insert_type (r : Relation) (options : String) (s : State) :
    @inMemory (Option TypeEntry) (ask (.insertType r options)) s =
      match s.memory.typeOf? r with
      | some _ => (.ok none, s)
      | none => (.ok (some (r.entry options)), ⟨s.memory.addType r options, s.known⟩) := by
  refine (ask_in_memory (.insertType r options) s).trans ?_
  rw [Memory.serve_insert_type]
  cases s.memory.typeOf? r <;> rfl

theorem ask_fetch_type (index name : String) (s : State) :
    @inMemory (Option TypeEntry) (ask (.fetchType index name)) s = (.ok (s.memory.typeOf? ⟨index, name⟩), s) := rfl

theorem ask_store_options (index name options : String) (s : State) :
    @inMemory (Option TypeEntry) (ask (.storeTypeOptions index name options)) s =
      (.ok ((s.memory.typeOf? ⟨index, name⟩).map fun _ => Relation.entry ⟨index, name⟩ options),
        ⟨s.memory.replaceOptions ⟨index, name⟩ options, s.known⟩) := by
  rw [← Memory.entry_replaced_same]
  rfl

theorem ask_insert_generated (r : Relation) (source : Json) (s : State) :
    @inMemory (Option Document) (ask (.insertDocument r none source)) s =
      (.ok (some ⟨toString (s.memory.table r).nextFree, source, 1⟩),
        s.put r { (s.memory.table r).insert ⟨toString (s.memory.table r).nextFree, source, 1⟩ with
          drawn := (s.memory.table r).nextFree }) := rfl

theorem ask_insert_supplied (r : Relation) (id : String) (source : Json) (s : State) :
    @inMemory (Option Document) (ask (.insertDocument r (some id) source)) s =
      if (s.memory.table r).hasId id then (.ok none, s.put r (s.memory.table r))
      else (.ok (some ⟨id, source, 1⟩), s.put r ((s.memory.table r).insert ⟨id, source, 1⟩)) := by
  refine (ask_in_memory (.insertDocument r (some id) source) s).trans ?_
  simp only [Memory.serve, Memory.insertDocument]
  split <;> rfl

theorem ask_replace_document (r : Relation) (id : String) (source : Json) (s : State) :
    @inMemory (Option Document) (ask (.replaceDocument r id source)) s =
      match (s.memory.table r).find? id with
      | some d => (.ok (some (d.revised source)), s.put r ((s.memory.table r).replace (d.revised source)))
      | none => (.ok none, s) := by
  refine (ask_in_memory (.replaceDocument r id source) s).trans ?_
  rw [Memory.serve]
  cases (s.memory.table r).find? id <;> rfl

theorem ask_remove_document (r : Relation) (id : String) (s : State) :
    @inMemory (Option Document) (ask (.removeDocument r id)) s =
      match (s.memory.table r).find? id with
      | some d => (.ok (some d), s.put r ((s.memory.table r).erase id))
      | none => (.ok none, s) := by
  refine (ask_in_memory (.removeDocument r id) s).trans ?_
  rw [Memory.serve]
  cases (s.memory.table r).find? id <;> rfl

theorem note_in_memory (r : Relation) (s : State) : (KnownRelations.note r).inMemory s = (.ok r, s.note r) := by
  simp only [KnownRelations.note, bind_in_memory, modify_in_memory, get_in_memory, pure_in_memory,
    KnownRelations.insert_finds, Option.getD_some, note]

theorem names_of_typed (sound : s.Sound) {index type : String} {entry : TypeEntry}
    (present : s.memory.typeOf? ⟨index, type⟩ = some entry) : Relation.ofNames index type = .ok ⟨index, type⟩ :=
  sound.named ⟨index, type⟩ (Option.isSome_of_eq_some present)

def indexed (s : State) (index : String) : State := ⟨s.memory.withIndex index, s.known⟩

theorem look_up_anywhere (index type : String) (s : State) :
    (KnownRelations.lookUp index type).inMemory s =
      match s.known.find? index type with
      | some r => (.ok (some r), s)
      | none =>
          match Relation.ofNames index type with
          | .error e => (.error e, s)
          | .ok r =>
              match s.memory.typeOf? r with
              | some _ => (.ok (some r), s.note r)
              | none => (.ok none, s) := by
  simp only [KnownRelations.lookUp, bind_in_memory, get_in_memory]
  cases s.known.find? index type with
  | some r => rfl
  | none =>
      simp only [bind_in_memory, lift_in_memory]
      cases valid : Relation.ofNames index type with
      | error e => rfl
      | ok r =>
          obtain rfl := relation_of_names valid
          cases present : s.memory.typeOf? ⟨index, type⟩ with
          | some entry => simp only [ask_fetch_type, present, bind_in_memory, note_in_memory, pure_in_memory]
          | none => simp only [ask_fetch_type, present, pure_in_memory]

theorem establish_anywhere (index type options : String) (s : State) :
    (KnownRelations.establish index type options).inMemory s =
      match Relation.ofNames index type with
      | .error e => (.error e, s)
      | .ok r =>
          match s.memory.typeOf? r with
          | some entry => (.ok (r, .existing entry), (s.indexed index).note r)
          | none =>
              (.ok (r, .created (r.entry options)), note ⟨(s.memory.withIndex index).addType r options, s.known⟩ r) := by
  simp only [KnownRelations.establish, bind_in_memory, lift_in_memory]
  cases valid : Relation.ofNames index type with
  | error e => rfl
  | ok r =>
      obtain rfl := relation_of_names valid
      obtain ⟨inserted, ran⟩ := ask_insert_missing_index index s
      simp only [ran, ask_insert_type, with_index_entry]
      cases present : s.memory.typeOf? ⟨index, type⟩ with
      | some entry =>
          simp only [ask_fetch_type, with_index_entry, present, bind_in_memory, note_in_memory, pure_in_memory, indexed]
      | none => simp only [bind_in_memory, note_in_memory, pure_in_memory]

-- A relation that is noted has a type, so asking the catalog would give the same answer.
theorem look_up_in_memory (sound : s.Sound) (index type : String) :
    (KnownRelations.lookUp index type).inMemory s =
      match s.memory.typeOf? ⟨index, type⟩ with
      | some _ => (.ok (some ⟨index, type⟩), s.note ⟨index, type⟩)
      | none => ((Relation.ofNames index type).map fun _ => none, s) := by
  rw [look_up_anywhere]
  cases found : s.known.find? index type with
  | some r =>
      obtain ⟨rfl, member⟩ := KnownRelations.find_known found
      obtain ⟨entry, present⟩ := Option.isSome_iff_exists.mp (sound.noted _ member)
      have kept : s.known.insert ⟨index, type⟩ = s.known := KnownRelations.insert_known found
      simp only [present, note, kept]
  | none =>
      cases present : s.memory.typeOf? ⟨index, type⟩ with
      | some entry => simp only [names_of_typed sound present, present]
      | none =>
          cases valid : Relation.ofNames index type with
          | error e => rfl
          | ok r =>
              obtain rfl := relation_of_names valid
              simp only [present, Except.map]

theorem establish_in_memory (sound : s.Sound) (index type options : String) :
    (KnownRelations.establish index type options).inMemory s =
      match Relation.ofNames index type with
      | .error e => (.error e, s)
      | .ok r =>
          (.ok (r, match s.memory.typeOf? r with
            | some entry => .existing entry
            | none => .created (r.entry options)),
          s.provide r options) := by
  rw [establish_anywhere]
  cases valid : Relation.ofNames index type with
  | error e => rfl
  | ok r =>
      obtain rfl := relation_of_names valid
      cases present : s.memory.typeOf? ⟨index, type⟩ with
      | some entry =>
          -- The type has an index, so there was none to insert.
          have unchanged : s.memory.withIndex index = s.memory := by
            obtain ⟨found, there⟩ := Option.isSome_iff_exists.mp (sound.indexed _ (Option.isSome_of_eq_some present))
            rw [Memory.withIndex, there]
          simp only [present, indexed, unchanged, provide]
      | none => simp only [present, provide, note]

theorem obtain_in_memory (sound : s.Sound) (index type : String) :
    (KnownRelations.obtain index type).inMemory s =
      match Relation.ofNames index type with
      | .error e => (.error e, s)
      | .ok r => (.ok r, s.provide r "") := by
  simp only [KnownRelations.obtain, bind_in_memory, look_up_in_memory sound]
  cases present : s.memory.typeOf? ⟨index, type⟩ with
  | some entry =>
      have valid := names_of_typed sound present
      simp only [valid, pure_in_memory, provide, present]
  | none =>
      cases valid : Relation.ofNames index type with
      | error e => rfl
      | ok r => simp only [Except.map, bind_in_memory, establish_in_memory sound, valid, pure_in_memory]

theorem relation_in_memory (sound : s.Sound) (index type : String) :
    (Store.relation? index type).inMemory s =
      (.ok ((s.memory.typeOf? ⟨index, type⟩).map fun _ => ⟨index, type⟩), s.touch ⟨index, type⟩) := by
  rw [Store.relation?, touch]
  cases present : s.memory.typeOf? ⟨index, type⟩ with
  | some entry =>
      have valid := names_of_typed sound present
      simp only [valid, look_up_in_memory sound, present, Option.map_some]
  | none =>
      cases valid : Relation.ofNames index type with
      | error e => rfl
      | ok r => simp only [look_up_in_memory sound, present, valid, Except.map, Option.map_none]

theorem create_index_in_memory (name options : String) (s : State) :
    (createIndex name options).inMemory s =
      match checkIndexName name with
      | .error e => (.error e, s)
      | .ok _ =>
          match s.memory.index? name with
          | some _ => (.error (.illegalOperation .indexExists), s)
          | none => (.ok ⟨name, options⟩, ⟨s.memory.addIndex name options, s.known⟩) := by
  simp only [createIndex, bind_in_memory, lift_in_memory, ask_insert_index]
  cases checkIndexName name with
  | error e => rfl
  | ok => cases present : s.memory.index? name <;> simp only [present, pure_in_memory, throw_in_memory]

theorem create_type_in_memory (sound : s.Sound) (index type options : String) :
    (createType index type options).inMemory s =
      match Relation.ofNames index type with
      | .error e => (.error e, s)
      | .ok r =>
          (match s.memory.typeOf? r with
            | some _ => .error (.illegalOperation .typeExists)
            | none => .ok (r.entry options),
          s.provide r options) := by
  simp only [createType, bind_in_memory, establish_in_memory sound]
  cases Relation.ofNames index type with
  | error e => rfl
  | ok r => cases present : s.memory.typeOf? r <;> simp only [present, pure_in_memory, throw_in_memory]

theorem replace_options_in_memory (index type options : String) (s : State) :
    (replaceTypeOptions index type options).inMemory s =
      (match s.memory.typeOf? ⟨index, type⟩ with
        | some _ => .ok (Relation.entry ⟨index, type⟩ options)
        | none => .error (.illegalOperation .noSuchType),
      ⟨s.memory.replaceOptions ⟨index, type⟩ options, s.known⟩) := by
  simp only [replaceTypeOptions, bind_in_memory, ask_store_options]
  cases s.memory.typeOf? ⟨index, type⟩ <;> rfl

def insert (s : State) (r : Relation) (source : Json) : Option String → Except Failure Document × State
  | some id =>
      if (s.memory.table r).hasId id then
        (.error (.illegalOperation (.documentExists id)), s.put r (s.memory.table r))
      else (.ok ⟨id, source, 1⟩, s.put r ((s.memory.table r).insert ⟨id, source, 1⟩))
  | none =>
      let n := (s.memory.table r).nextFree
      (.ok ⟨toString n, source, 1⟩,
        s.put r { (s.memory.table r).insert ⟨toString n, source, 1⟩ with drawn := n })

theorem create_document_in_memory (sound : s.Sound) (index type : String) (source : Json) (id : Option String) :
    (createDocument index type source id).inMemory s =
      match place index type (id.filter (· ≠ "")) with
      | .error e => (.error e, s)
      | .ok r => (s.provide r "").insert r source (id.filter (· ≠ "")) := by
  unfold createDocument place
  generalize id.filter (· ≠ "") = id
  cases id with
  | none =>
      simp only [bind_in_memory, obtain_in_memory sound]
      cases Relation.ofNames index type with
      | error e => rfl
      | ok r => simp only [ask_insert_generated, pure_in_memory, insert]
  | some id =>
      simp only [bind_in_memory, lift_in_memory]
      cases checkId id with
      | error e => rfl
      | ok =>
          simp only [obtain_in_memory sound]
          cases Relation.ofNames index type with
          | error e => rfl
          | ok r =>
              simp only [ask_insert_supplied, insert]
              by_cases taken : ((s.provide r "").memory.table r).hasId id = true
              · simp only [if_pos taken, throw_in_memory]
              · simp only [if_neg taken, pure_in_memory]

theorem get_document_in_memory (sound : s.Sound) (index type id : String) :
    (getDocument index type id).inMemory s =
      if id = "" then (.ok none, s) else (.ok (s.find? ⟨index, type⟩ id), s.touch ⟨index, type⟩) := by
  rw [getDocument, find?, rows, touch]
  by_cases empty : id = ""
  · rw [if_pos empty, if_pos empty, pure_in_memory]
  · rw [if_neg empty, if_neg empty]
    simp only [bind_in_memory, relation_in_memory sound, touch]
    cases present : s.memory.typeOf? ⟨index, type⟩ <;> rfl

theorem document_exists_in_memory (sound : s.Sound) (index type id : String) :
    (documentExists index type id).inMemory s =
      if id = "" then (.ok false, s)
      else (.ok (s.find? ⟨index, type⟩ id).isSome, s.touch ⟨index, type⟩) := by
  rw [documentExists, return_in_memory, get_document_in_memory sound]
  by_cases empty : id = ""
  · rw [if_pos empty, if_pos empty]
    rfl
  · rw [if_neg empty, if_neg empty]
    rfl

theorem update_document_in_memory (sound : s.Sound) (index type : String) (source : Json) (id : String) :
    (updateDocument index type source id).inMemory s =
      if id = "" then (.error (.illegalOperation (.noSuchDocument id)), s)
      else
        match s.find? ⟨index, type⟩ id with
        | none => (.error (.illegalOperation (.noSuchDocument id)), s.touch ⟨index, type⟩)
        | some d =>
            (.ok (d.revised source), (s.note ⟨index, type⟩).put ⟨index, type⟩
              ((s.memory.table ⟨index, type⟩).replace (d.revised source))) := by
  rw [updateDocument, find?, rows]
  by_cases empty : id = ""
  · rw [if_pos empty, if_pos empty]
    simp only [bind_in_memory, throw_in_memory]
  · rw [if_neg empty, if_neg empty]
    simp only [bind_in_memory, relation_in_memory sound, touch]
    cases present : s.memory.typeOf? ⟨index, type⟩ with
    | none => rfl
    | some entry =>
        simp only [Option.map_some, bind_in_memory, ask_replace_document, note, Table.find?]
        cases s.memory.table ⟨index, type⟩ |>.rows.find? (·.id == id) <;> rfl

theorem delete_document_in_memory (sound : s.Sound) (index type id : String) :
    (deleteDocument index type id).inMemory s =
      if id = "" then (.ok none, s)
      else
        (.ok (s.find? ⟨index, type⟩ id),
          match s.find? ⟨index, type⟩ id with
          | none => s.touch ⟨index, type⟩
          | some _ => (s.note ⟨index, type⟩).put ⟨index, type⟩ ((s.memory.table ⟨index, type⟩).erase id)) := by
  rw [deleteDocument, find?, rows]
  by_cases empty : id = ""
  · rw [if_pos empty, if_pos empty, pure_in_memory]
  · rw [if_neg empty, if_neg empty]
    simp only [bind_in_memory, relation_in_memory sound, touch]
    cases present : s.memory.typeOf? ⟨index, type⟩ with
    | none => rfl
    | some entry =>
        simp only [Option.map_some, ask_remove_document, note, Table.find?]
        cases s.memory.table ⟨index, type⟩ |>.rows.find? (·.id == id) <;> rfl

theorem select_in_memory (sound : s.Sound) (index type : String) (predicate : Predicate) :
    (select index type predicate).inMemory s =
      (.ok ((s.rows ⟨index, type⟩).filter fun d => predicate.matchesSource d.source), s.touch ⟨index, type⟩) := by
  simp only [select, rows, touch, bind_in_memory, relation_in_memory sound]
  cases present : s.memory.typeOf? ⟨index, type⟩ <;> rfl

theorem sound_touch (sound : s.Sound) (r : Relation) : (s.touch r).Sound := by
  rw [touch]
  cases present : s.memory.typeOf? r with
  | some entry => exact sound_note sound (Option.isSome_of_eq_some present)
  | none => exact sound

theorem sound_insert (sound : s.Sound) {r : Relation} (present : (s.memory.typeOf? r).isSome) (source : Json)
    (id : Option String) : (s.insert r source id).2.Sound := by
  have distinct := sound.distinct r
  cases id with
  | some id =>
      by_cases taken : (s.memory.table r).hasId id = true
      · rw [insert, if_pos taken]
        exact sound_put sound present distinct
      · rw [insert, if_neg taken]
        refine sound_put sound present (Table.insert_distinct distinct ?_)
        rwa [Table.find_none, ← Table.has_id]
  | none =>
      obtain ⟨_, free, _⟩ := (s.memory.table r).next_free_least
      refine sound_put sound present (Table.insert_distinct distinct ?_)
      rw [Table.find_none, ← Table.has_id, free]
      exact Bool.false_ne_true

theorem provided_entry (s : State) (r : Relation) (options : String) :
    ((s.provide r options).memory.typeOf? r).isSome := by
  rw [provide_entry, if_pos rfl]
  rfl

theorem found_entry {r : Relation} {id : String} {d : Document} (found : s.find? r id = some d) :
    (s.memory.typeOf? r).isSome := by
  rw [find?, rows] at found
  cases present : s.memory.typeOf? r with
  | some entry => rfl
  | none =>
      rw [present] at found
      cases found

theorem step_sound (op : Operation) (sound : s.Sound) : (op.step s).2.Sound := by
  cases op with
  | createCatalog | getIndex | findIndices | getType | findTypes => exact sound
  | createIndex name options =>
      rw [Operation.step, Operation.perform, return_in_memory, create_index_in_memory]
      cases checkIndexName name with
      | error e => exact sound
      | ok =>
          cases s.memory.index? name with
          | some entry => exact sound
          | none => exact sound_add_index sound name options
  | createType index type options =>
      rw [Operation.step, Operation.perform, return_in_memory, create_type_in_memory sound]
      cases valid : Relation.ofNames index type with
      | error e => exact sound
      | ok r => exact sound_provide sound (valid_pair valid)
  | replaceTypeOptions index type options =>
      rw [Operation.step, Operation.perform, return_in_memory, replace_options_in_memory]
      exact sound_replace_options sound ⟨index, type⟩ options
  | createDocument index type source id =>
      rw [Operation.step, Operation.perform, return_in_memory, create_document_in_memory sound]
      cases accepted : place index type (id.filter (· ≠ "")) with
      | error e => exact sound
      | ok r => exact sound_insert (sound_provide sound (valid_pair (place_iff.mp accepted).2)) (provided_entry s r "") _ _
  | getDocument index type id =>
      rw [Operation.step, Operation.perform, return_in_memory, get_document_in_memory sound]
      split
      · exact sound
      · exact sound_touch sound _
  | documentExists index type id =>
      rw [Operation.step, Operation.perform, return_in_memory, document_exists_in_memory sound]
      split
      · exact sound
      · exact sound_touch sound _
  | updateDocument index type source id =>
      rw [Operation.step, Operation.perform, return_in_memory, update_document_in_memory sound]
      split
      · exact sound
      · cases found : s.find? ⟨index, type⟩ id with
        | none => exact sound_touch sound _
        | some d =>
            have present := found_entry found
            exact sound_put (sound_note sound present) present (Table.replace_distinct (sound.distinct _))
  | deleteDocument index type id =>
      rw [Operation.step, Operation.perform, return_in_memory, delete_document_in_memory sound]
      split
      · exact sound
      · cases found : s.find? ⟨index, type⟩ id with
        | none => exact sound_touch sound _
        | some d =>
            have present := found_entry found
            exact sound_put (sound_note sound present) present (Table.erase_distinct (sound.distinct _))
  | select index type predicate =>
      rw [Operation.step, Operation.perform, return_in_memory, select_in_memory sound]
      exact sound_touch sound _

theorem reachable_sound (reachable : Reachable s) : s.Sound :=
  reachable_induction sound_fresh (fun op _ => step_sound op) reachable

end Store.State

namespace Store

open Store.State StoreM

variable {s : State} {q : Relation}

theorem fetched_answer (sound : s.Sound) {id : String} (given : id ≠ "") :
    (Operation.step (.getDocument q.index q.type id) s).1 = .ok (.foundDocument (s.find? q id)) := by
  rw [Operation.step, Operation.perform, return_in_memory, get_document_in_memory sound, if_neg given]
  rfl

theorem find_typed (typed : (s.memory.typeOf? q).isSome) (id : String) : s.find? q id = (s.memory.table q).find? id := by
  obtain ⟨entry, there⟩ := Option.isSome_iff_exists.mp typed
  rw [State.find?, rows, there, Table.find?]

theorem find_unshared (sound : s.Sound) (unshared : s.Unshared q) (id : String) :
    s.find? q id = (s.memory.table q).find? id := by
  cases present : s.memory.typeOf? q with
  | some entry => exact find_typed (Option.isSome_of_eq_some present) id
  | none =>
      rw [State.find?, rows, present, Memory.table, untyped_untabled sound unshared present]
      rfl

end Store

end SearchStore

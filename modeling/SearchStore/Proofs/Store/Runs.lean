import Mathlib.Data.List.Induction
import SearchStore.Proofs.Store.Deeds
import SearchStore.Proofs.Store.Effects

/-!
What the operations of a run have done. An operation does one deed at most, and its answer tells
which; there are six ways in which it can leave a state, and from them follows what a run makes of
the tables and of the types.
-/

set_option autoImplicit false

namespace SearchStore.Store

open Store.State StoreM

-- What an operation has done, and under which pair, if it was answered so.
def Operation.deed? : Operation → Result → Option (Relation × Deed)
  | .createDocument index type source id, .ok (.document d) =>
      some (⟨index, type⟩, .created d.id source (id.filter (· ≠ "")).isNone)
  | .updateDocument index type source id, .ok (.document _) => some (⟨index, type⟩, .updated id source)
  | .deleteDocument index type id, .ok (.foundDocument (some _)) => some (⟨index, type⟩, .deleted id)
  | _, _ => none

-- The ways in which an operation about a pair can leave a state, with the deed it has done.
inductive Effect (s : State) (about : Option Relation) : State → Option (Relation × Deed) → Prop where
  | nothing (s' : State) (same : s'.memory = s.memory) : Effect s about s' none
  | index (name options : String) : Effect s about ⟨s.memory.addIndex name options, s.known⟩ none
  | type (r : Relation) (options : String) (named : about = some r) : Effect s about (s.provide r options) none
  | options (r : Relation) (options : String) : Effect s about ⟨s.memory.replaceOptions r options, s.known⟩ none
  | refusal (r : Relation) (named : about = some r) :
      Effect s about ((s.provide r "").put r (s.memory.table r)) none
  | deed (r : Relation) (d : Deed) (named : about = some r) (fits : d.Fits (s.memory.table r)) :
      Effect s about ((s.provide r "").put r (d.on (s.memory.table r))) (some (r, d))

variable {s s' : State} {r : Relation} {about : Option Relation} {deed : Option (Relation × Deed)}

theorem named_pair {index type : String} (valid : Relation.ofNames index type = .ok r) :
    (Relation.ofNames index type).toOption = some ⟨index, type⟩ := by
  rw [valid, relation_of_names valid]
  rfl

theorem touch_effect (s : State) (r : Relation) : Effect s about (s.touch r) none := .nothing _ (touch_memory s r)

theorem insert_effect (named : about = some r) (source : Json) {id : Option String}
    (given : ∀ i ∈ id, i ≠ "" ∧ checkId i = .ok ()) :
    Effect s about ((s.provide r "").insert r source id).2
      (match ((s.provide r "").insert r source id).1 with
        | .ok d => some (r, .created d.id source id.isNone)
        | .error _ => none) := by
  have held : (s.provide r "").memory.table r = s.memory.table r := provide_table
  cases id with
  | none =>
      rw [State.insert, held]
      exact .deed r _ named (.generated source)
  | some id =>
      obtain ⟨filled, accepted⟩ := given id rfl
      rw [State.insert, held]
      by_cases taken : (s.memory.table r).hasId id = true
      · rw [if_pos taken]
        exact .refusal r named
      · rw [if_neg taken]
        have absent : (s.memory.table r).find? id = none := by rwa [Table.find_none, ← Table.has_id]
        exact .deed r _ named (.supplied id source filled accepted absent)

theorem create_document_effect (sound : s.Sound) (index type : String) (source : Json) (id : Option String) :
    let op : Operation := .createDocument index type source id
    Effect s op.relation? (op.step s).2 (op.deed? (op.step s).1) := by
  simp only [Operation.step, Operation.perform, return_in_memory, create_document_in_memory sound]
  cases accepted : place index type (id.filter (· ≠ "")) with
  | error e => exact .nothing s rfl
  | ok r =>
      obtain ⟨checked, valid⟩ := place_iff.mp accepted
      obtain rfl := relation_of_names valid
      have given : ∀ i ∈ id.filter (· ≠ ""), i ≠ "" ∧ checkId i = .ok () := by
        intro i member
        have filled := (Option.filter_eq_some_iff.mp member).2
        exact ⟨by simpa using filled, checked i member⟩
      have effect := insert_effect (s := s) (named_pair valid) source given
      cases answer : ((s.provide ⟨index, type⟩ "").insert ⟨index, type⟩ source (id.filter (· ≠ ""))).1 with
      | error e =>
          rw [answer] at effect
          exact effect
      | ok d =>
          rw [answer] at effect
          exact effect

theorem rewrite_effect {id : String} {d : Document} (sound : s.Sound) (found : s.find? r id = some d) (deed : Deed)
    (fits : deed.Fits (s.memory.table r)) :
    Effect s (Relation.ofNames r.index r.type).toOption ((s.note r).put r (deed.on (s.memory.table r))) (some (r, deed)) := by
  have typed := found_entry found
  have noted : s.note r = s.provide r "" := by
    obtain ⟨entry, present⟩ := Option.isSome_iff_exists.mp typed
    rw [provide, present]
  rw [noted]
  exact .deed r deed (named_pair (sound.named r typed)) fits

theorem step_effect (sound : s.Sound) (op : Operation) :
    Effect s op.relation? (op.step s).2 (op.deed? (op.step s).1) := by
  cases op with
  | createCatalog | getIndex | findIndices | getType | findTypes => exact .nothing s rfl
  | createIndex name options =>
      rw [Operation.step, Operation.perform, return_in_memory, create_index_in_memory]
      cases checkIndexName name with
      | error e => exact .nothing s rfl
      | ok =>
          cases s.memory.index? name with
          | some entry => exact .nothing s rfl
          | none => exact .index name options
  | createType index type options =>
      rw [Operation.step, Operation.perform, return_in_memory, create_type_in_memory sound]
      cases valid : Relation.ofNames index type with
      | error e => exact .nothing s rfl
      | ok r => exact .type r options (congrArg Except.toOption valid)
  | replaceTypeOptions index type options =>
      rw [Operation.step, Operation.perform, return_in_memory, replace_options_in_memory]
      exact .options ⟨index, type⟩ options
  | createDocument index type source id => exact create_document_effect sound index type source id
  | getDocument index type id =>
      rw [Operation.step, Operation.perform, return_in_memory, get_document_in_memory sound]
      split
      · exact .nothing s rfl
      · exact touch_effect s _
  | documentExists index type id =>
      rw [Operation.step, Operation.perform, return_in_memory, document_exists_in_memory sound]
      split
      · exact .nothing s rfl
      · exact touch_effect s _
  | updateDocument index type source id =>
      rw [Operation.step, Operation.perform, return_in_memory, update_document_in_memory sound]
      split
      · exact .nothing s rfl
      · cases found : s.find? ⟨index, type⟩ id with
        | none => exact touch_effect s _
        | some d =>
            have held := (find_typed (found_entry found) id).symm.trans found
            have effect := rewrite_effect sound found (.updated id source) (.updated id source (Option.isSome_of_eq_some held))
            rwa [Deed.on, held] at effect
  | deleteDocument index type id =>
      rw [Operation.step, Operation.perform, return_in_memory, delete_document_in_memory sound]
      split
      · exact .nothing s rfl
      · cases found : s.find? ⟨index, type⟩ id with
        | none => exact touch_effect s _
        | some d =>
            have held := (find_typed (found_entry found) id).symm.trans found
            exact rewrite_effect sound found (.deleted id) (.deleted id (Option.isSome_of_eq_some held))
  | select index type predicate =>
      rw [Operation.step, Operation.perform, return_in_memory, select_in_memory sound]
      exact touch_effect s _

def tableAfter (s : State) (q : Relation) : Option (Relation × Deed) → Table
  | none => s.memory.table q
  | some (r, d) => if q.table = r.table then d.on (s.memory.table r) else s.memory.table q

theorem effect_table (effect : Effect s about s' deed) (q : Relation) : s'.memory.table q = tableAfter s q deed := by
  have put (r : Relation) (t : Table) : ((s.provide r "").put r t).memory.table q =
      if q.table = r.table then t else s.memory.table q := by
    by_cases shared : q.table = r.table
    · rw [if_pos shared, Memory.table_shared _ shared]
      exact Memory.table_set_same t
    · rw [if_neg shared]
      exact (Memory.table_set_other t shared).trans provide_table
  cases effect with
  | nothing s' same => exact congrArg (Memory.table · q) same
  | index name options => rfl
  | type r options named => exact provide_table
  | options r options => rfl
  | refusal r named =>
      refine (put r _).trans ?_
      by_cases shared : q.table = r.table
      · rw [if_pos shared, ← Memory.table_shared _ shared]
        rfl
      · rw [if_neg shared]
        rfl
  | deed r d named fits => exact put r _

theorem effect_typed (effect : Effect s about s' deed) {q : Relation} (typed : (s'.memory.typeOf? q).isSome) :
    (s.memory.typeOf? q).isSome ∨ about = some q := by
  have provided {r : Relation} {options : String} (named : about = some r)
      (here : ((s.provide r options).memory.typeOf? q).isSome) : (s.memory.typeOf? q).isSome ∨ about = some q := by
    by_cases same : q = r
    · exact Or.inr (same ▸ named)
    · rw [provide_entry, if_neg same] at here
      exact Or.inl here
  cases effect with
  | nothing s' same => exact Or.inl (same ▸ typed)
  | index name options => exact Or.inl typed
  | type r options named => exact provided named typed
  | options r options =>
      rw [Memory.entry_replaced, Option.isSome_map] at typed
      exact Or.inl typed
  | refusal r named => exact provided named typed
  | deed r d named fits => exact provided named typed

theorem effect_named {d : Deed} (effect : Effect s about s' (some (r, d))) : about = some r := by
  cases effect with
  | deed r d named fits => exact named

theorem effect_fits {d : Deed} (effect : Effect s about s' (some (r, d))) : d.Fits (s.memory.table r) := by
  cases effect with
  | deed r d named fits => exact fits

def after (ops : List Operation) : State := (play Operation.step ops .fresh).2

def deeds (ops : List Operation) : List (Relation × Deed) :=
  (ops.zip (play Operation.step ops .fresh).1).filterMap fun e => e.1.deed? e.2

def deedsWhere (here : Relation → Bool) (ops : List Operation) : List Deed :=
  ((deeds ops).filter fun e => here e.1).map (·.2)

def deedsOn (r : Relation) : List Operation → List Deed := deedsWhere (· = r)

def deedsIn (table : String) : List Operation → List Deed := deedsWhere (·.table = table)

theorem after_sound (ops : List Operation) : (after ops).Sound := reachable_sound ⟨ops, rfl⟩

theorem after_snoc (ops : List Operation) (op : Operation) : after (ops ++ [op]) = (op.step (after ops)).2 :=
  play_append Operation.step ops [op] .fresh

theorem play_results_snoc (ops : List Operation) (op : Operation) (s : State) :
    (play Operation.step (ops ++ [op]) s).1 =
      (play Operation.step ops s).1 ++ [(op.step (play Operation.step ops s).2).1] := by
  induction ops generalizing s with
  | nil => rfl
  | cons first rest ih => exact congrArg (List.cons (first.step s).1) (ih (first.step s).2)

theorem play_results_length (ops : List Operation) (s : State) : (play Operation.step ops s).1.length = ops.length := by
  induction ops generalizing s with
  | nil => rfl
  | cons first rest ih => exact congrArg Nat.succ (ih (first.step s).2)

theorem deeds_snoc (ops : List Operation) (op : Operation) :
    deeds (ops ++ [op]) = deeds ops ++ (op.deed? (op.step (after ops)).1).toList := by
  rw [deeds, play_results_snoc, List.zip_append (play_results_length ops _).symm, List.filterMap_append]
  change _ ++ List.filterMap _ [(op, (op.step (after ops)).1)] = _
  cases done : op.deed? (op.step (after ops)).1 <;> simp [done, deeds]

theorem deeds_where_snoc (here : Relation → Bool) (ops : List Operation) (op : Operation) :
    deedsWhere here (ops ++ [op]) =
      match op.deed? (op.step (after ops)).1 with
      | none => deedsWhere here ops
      | some (r, d) => if here r then deedsWhere here ops ++ [d] else deedsWhere here ops := by
  rw [deedsWhere, deeds_snoc, List.filter_append, List.map_append]
  cases op.deed? (op.step (after ops)).1 with
  | none => simp [deedsWhere]
  | some e => by_cases inside : here e.1 = true <;> simp [deedsWhere, inside]

theorem table_made (ops : List Operation) (r : Relation) :
    Made (deedsIn r.table ops) ((after ops).memory.table r) := by
  induction ops using List.reverseRecOn with
  | nil => exact .empty
  | append_singleton ops op ih =>
      have effect := step_effect (after_sound ops) op
      rw [after_snoc, deedsIn, deeds_where_snoc, effect_table effect]
      cases done : op.deed? (op.step (after ops)).1 with
      | none => exact ih
      | some e =>
          obtain ⟨q, d⟩ := e
          rw [done] at effect
          by_cases shared : r.table = q.table
          · rw [tableAfter, if_pos shared, ← Memory.table_shared _ shared]
            simp only [shared.symm, decide_true, if_true]
            refine .next ih ?_
            rw [Memory.table_shared _ shared]
            exact effect_fits effect
          · rw [tableAfter, if_neg shared]
            simp only [Ne.symm shared, decide_false, Bool.false_eq_true, if_false]
            exact ih

theorem typed_named {ops : List Operation} {q : Relation} (typed : ((after ops).memory.typeOf? q).isSome) :
    ∃ op ∈ ops, op.relation? = some q := by
  induction ops using List.reverseRecOn with
  | nil => cases typed
  | append_singleton ops op ih =>
      rw [after_snoc] at typed
      rcases effect_typed (step_effect (after_sound ops) op) typed with before | named
      · obtain ⟨earlier, member, named⟩ := ih before
        exact ⟨earlier, List.mem_append_left _ member, named⟩
      · exact ⟨op, List.mem_append_right _ (List.mem_singleton_self op), named⟩

theorem deed_named {ops : List Operation} {r : Relation} {d : Deed} (done : (r, d) ∈ deeds ops) :
    ∃ op ∈ ops, op.relation? = some r := by
  induction ops using List.reverseRecOn with
  | nil => cases done
  | append_singleton ops op ih =>
      rw [deeds_snoc, List.mem_append, Option.mem_toList] at done
      rcases done with before | now
      · obtain ⟨earlier, member, named⟩ := ih before
        exact ⟨earlier, List.mem_append_left _ member, named⟩
      · have effect := step_effect (after_sound ops) op
        rw [now] at effect
        exact ⟨op, List.mem_append_right _ (List.mem_singleton_self op), effect_named effect⟩

theorem deeds_length (ops : List Operation) : (deeds ops).length ≤ ops.length := by
  calc (deeds ops).length
    _ ≤ (ops.zip (play Operation.step ops .fresh).1).length := List.length_filterMap_le _ _
    _ ≤ ops.length := by rw [List.length_zip]; exact Nat.min_le_left _ _

end SearchStore.Store

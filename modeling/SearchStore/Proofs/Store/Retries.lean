import SearchStore.Proofs.Store.Effects
import SearchStore.Proofs.Store.Interruptions

/-!
An operation that is broken off by an error of the storage and then run again ends as if it had never
been broken off. What it has done by then, an index or a type it has created or a relation it has
noted, is what its second run finds, and finding it takes that run to the same place.
-/

set_option autoImplicit false

namespace SearchStore

namespace Store.State

theorem with_index_again (m : Memory) (name : String) : (m.withIndex name).withIndex name = m.withIndex name := by
  cases present : m.index? name with
  | some entry => simp only [Memory.withIndex, present]
  | none =>
      have added : (m.addIndex name "").index? name = some ⟨name, ""⟩ := by
        rw [Memory.index_added, if_pos rfl]
      simp only [Memory.withIndex, present, added]

end Store.State

namespace StoreM

open Store (State)
open Store.State

variable {α β : Type} {op : StoreM α} {f : α → StoreM β} {s : State} {index type options id : String} {source : Json}

def Resumes (op : StoreM α) (s : State) : Prop := Guarded (fun left => op.inMemory left = op.inMemory s) op s

def Settles (op : StoreM α) (s : State) : Prop :=
  ∀ a after, op.inMemory s = (.ok a, after) → op.inMemory after = (.ok a, after)

-- What follows an operation may be broken off at its start, where the operation is settled.
theorem resumes_bind (first : Resumes op s)
    (next : ∀ a after, op.inMemory s = (.ok a, after) →
      Guarded (fun left => left = after ∧ op.inMemory after = (.ok a, after)) (f a) after) : Resumes (op >>= f) s := by
  refine guarded_bind (guarded_wider first ?_) fun a after ran => guarded_wider (next a after ran) ?_
  · intro left same
    rw [bind_in_memory, bind_in_memory, same]
  · rintro left ⟨rfl, settled⟩
    rw [bind_in_memory, bind_in_memory, settled, ran]

theorem resumes_ask (r : StorageRequest) : Resumes (ask r) s := guarded_ask r rfl

theorem resumes_given {result : Except Failure α} (next : ∀ a, result = .ok a → Resumes (f a) s) :
    Resumes (liftM result >>= f) s := by
  cases result with
  | error e => exact .done _ _
  | ok a => exact next a rfl

theorem resumes_silent (first : Resumes op s) (silent : ∀ a s, Guarded (fun _ => False) (f a) s) : Resumes (op >>= f) s :=
  resumes_bind first fun a after _ => guarded_wider (silent a after) fun _ never => never.elim

theorem resumes_return (resumes : Resumes op s) (g : α → β) : Resumes (do return g (← op)) s :=
  resumes_silent resumes fun _ _ => guarded_pure _

theorem look_up_guarded : Guarded (fun left => left = s) (KnownRelations.lookUp index type) s := by
  refine guarded_known ?_
  cases s.known.find? index type with
  | some r => exact guarded_pure _
  | none =>
      refine guarded_given fun r _ => guarded_request rfl ?_
      cases (s.memory.serve (.fetchType index type)).1 with
      | some entry => exact guarded_bind (guarded_note r) fun _ _ _ => guarded_pure _
      | none => exact guarded_pure _

-- An index is there before its type, so the type may be asked for with the index already created.
theorem establish_guarded :
    Guarded (fun left => left = s ∨ Relation.ofNames index type = .ok ⟨index, type⟩ ∧ left = s.indexed index)
      (KnownRelations.establish index type options) s := by
  refine guarded_given fun r valid => guarded_bind (guarded_ask _ (Or.inl rfl)) ?_
  obtain rfl := Store.relation_of_names valid
  intro inserted after ran
  obtain ⟨_, indexed⟩ := ask_insert_missing_index index s
  obtain ⟨_, rfl⟩ := Prod.mk.inj (ran.symm.trans indexed)
  refine guarded_bind (guarded_ask _ (Or.inr ⟨valid, rfl⟩)) ?_
  intro created after ran
  cases created with
  | some entry => exact guarded_bind (guarded_note _) fun _ _ _ => guarded_pure _
  | none =>
      -- A type that is there already is not written, so nothing has changed when it is fetched.
      have unchanged : after = s.indexed index := by
        rw [ask_insert_type] at ran
        split at ran
        · exact (congrArg Prod.snd ran).symm
        · cases ran
      subst unchanged
      refine guarded_request (Or.inr ⟨valid, rfl⟩) ?_
      cases (s.indexed index).memory.serve (.fetchType index type) with
      | mk fetched left =>
          cases fetched with
          | some entry => exact guarded_bind (guarded_note _) fun _ _ _ => guarded_pure _
          | none => exact guarded_throw _

theorem resumes_establish : Resumes (KnownRelations.establish index type options) s := by
  refine guarded_wider establish_guarded ?_
  rintro left (rfl | ⟨valid, rfl⟩)
  · rfl
  · simp only [establish_anywhere, valid, indexed, with_index_entry, with_index_again]

theorem obtain_known {r : Relation} (found : s.known.find? index type = some r) :
    (KnownRelations.obtain index type).inMemory s = (.ok r, s) := by
  simp only [KnownRelations.obtain, bind_in_memory, look_up_anywhere, found, pure_in_memory]

theorem find_noted (s : State) (index type : String) :
    (s.note ⟨index, type⟩).known.find? index type = some ⟨index, type⟩ :=
  KnownRelations.insert_finds s.known ⟨index, type⟩

theorem look_up_found {r : Relation} {after : State}
    (ran : (KnownRelations.lookUp index type).inMemory s = (.ok (some r), after)) :
    after.known.find? index type = some r := by
  rw [look_up_anywhere] at ran
  cases found : s.known.find? index type with
  | some q =>
      simp only [found] at ran
      cases ran
      exact found
  | none =>
      cases valid : Relation.ofNames index type with
      | error e => simp [found, valid] at ran
      | ok q =>
          obtain rfl := Store.relation_of_names valid
          cases present : s.memory.typeOf? ⟨index, type⟩ with
          | none => simp [found, valid, present] at ran
          | some entry =>
              simp only [found, valid, present] at ran
              cases ran
              exact find_noted s index type

theorem look_up_missed {after : State} (ran : (KnownRelations.lookUp index type).inMemory s = (.ok none, after)) :
    after = s ∧ s.known.find? index type = none ∧ Relation.ofNames index type = .ok ⟨index, type⟩ ∧
      s.memory.typeOf? ⟨index, type⟩ = none := by
  rw [look_up_anywhere] at ran
  cases found : s.known.find? index type with
  | some r => simp [found] at ran
  | none =>
      cases valid : Relation.ofNames index type with
      | error e => simp [found, valid] at ran
      | ok r =>
          obtain rfl := Store.relation_of_names valid
          cases present : s.memory.typeOf? ⟨index, type⟩ with
          | some entry => simp [found, valid, present] at ran
          | none =>
              simp only [found, valid, present, Prod.mk.injEq, true_and] at ran
              exact ⟨ran.symm, rfl, rfl, rfl⟩

theorem obtained_known {r : Relation} {after : State} (ran : (KnownRelations.obtain index type).inMemory s = (.ok r, after)) :
    after.known.find? index type = some r := by
  rw [KnownRelations.obtain, bind_in_memory] at ran
  cases looked : (KnownRelations.lookUp index type).inMemory s with
  | mk result between =>
      rw [looked] at ran
      cases result with
      | error e => cases ran
      | ok found =>
          cases found with
          | some q =>
              simp only [pure_in_memory] at ran
              cases ran
              exact look_up_found looked
          | none =>
              obtain ⟨rfl, _, valid, present⟩ := look_up_missed looked
              simp only [bind_in_memory, establish_anywhere, valid, present, pure_in_memory] at ran
              cases ran
              exact find_noted _ index type

theorem resumes_obtain : Resumes (KnownRelations.obtain index type) s := by
  refine guarded_bind (guarded_wider look_up_guarded ?_) ?_
  · rintro left rfl
    rfl
  · intro looked after ran
    cases looked with
    | some r => exact guarded_pure r
    | none =>
        obtain ⟨rfl, found, valid, present⟩ := look_up_missed ran
        refine guarded_bind (guarded_wider establish_guarded ?_) fun _ _ _ => guarded_pure _
        rintro left (rfl | ⟨_, rfl⟩)
        · rfl
        · simp only [KnownRelations.obtain, bind_in_memory, look_up_anywhere, establish_anywhere, indexed,
            found, valid, present, with_index_entry, with_index_again]

theorem relation_guarded : Guarded (fun left => left = s) (Store.relation? index type) s := by
  rw [Store.relation?]
  cases Relation.ofNames index type with
  | error e => exact guarded_pure none
  | ok r => exact look_up_guarded

theorem settles_look_up : Settles (KnownRelations.lookUp index type) s := by
  intro looked after ran
  cases looked with
  | some r => rw [look_up_anywhere, look_up_found ran]
  | none =>
      obtain ⟨rfl, _⟩ := look_up_missed ran
      exact ran

theorem settles_relation : Settles (Store.relation? index type) s := by
  rw [Store.relation?]
  cases Relation.ofNames index type with
  | error e =>
      rintro looked after ⟨⟩
      rfl
  | ok r => exact settles_look_up

theorem resumes_on {f : Option Relation → StoreM β}
    (absent : ∀ s, Guarded (fun _ => False) (f none) s)
    (present : ∀ r s, Guarded (fun left => left = s) (f (some r)) s) : Resumes (Store.relation? index type >>= f) s := by
  refine resumes_bind (guarded_wider relation_guarded ?_) ?_
  · rintro left rfl
    rfl
  · intro found after ran
    have settled := settles_relation found after ran
    cases found with
    | none => exact guarded_wider (absent after) fun _ never => never.elim
    | some r => exact guarded_wider (present r after) fun _ same => ⟨same, settled⟩

open Store

theorem resumes_obtained {f : Relation → StoreM β} (next : ∀ r s, Guarded (fun left => left = s) (f r) s) :
    Resumes (KnownRelations.obtain index type >>= f) s := by
  refine resumes_bind resumes_obtain fun r after ran => guarded_wider (next r after) ?_
  intro left same
  exact ⟨same, obtain_known (obtained_known ran)⟩

theorem resumes_create_document {id : Option String} : Resumes (createDocument index type source id) s := by
  rw [createDocument]
  generalize id.filter (· ≠ "") = id
  cases id with
  | none =>
      refine resumes_obtained fun r s => guarded_request rfl ?_
      cases (s.memory.serve (.insertDocument r none source)).1 with
      | some d => exact guarded_pure d
      | none => exact guarded_throw _
  | some id =>
      refine resumes_given fun _ _ => resumes_obtained fun r s => guarded_request rfl ?_
      cases (s.memory.serve (.insertDocument r (some id) source)).1 with
      | some d => exact guarded_pure d
      | none => exact guarded_throw _

theorem resumes_update_document : Resumes (updateDocument index type source id) s := by
  rw [updateDocument]
  by_cases empty : id = ""
  · rw [if_pos empty]
    exact guarded_throw _
  · rw [if_neg empty]
    refine resumes_on (fun _ => guarded_throw _) fun r s => guarded_request rfl ?_
    cases (s.memory.serve (.replaceDocument r id source)).1 with
    | some d => exact guarded_pure d
    | none => exact guarded_throw _

theorem resumes_create_index {name : String} : Resumes (createIndex name options) s := by
  refine resumes_given fun _ _ => resumes_silent (resumes_ask _) fun inserted _ => ?_
  cases inserted with
  | some entry => exact guarded_pure entry
  | none => exact guarded_throw _

theorem resumes_create_type {name : String} : Resumes (createType index name options) s := by
  refine resumes_silent resumes_establish ?_
  rintro ⟨r, creation⟩ after
  cases creation with
  | created entry => exact guarded_pure entry
  | existing entry => exact guarded_throw _

theorem resumes_replace_options {name : String} : Resumes (replaceTypeOptions index name options) s := by
  refine resumes_silent (resumes_ask _) fun stored _ => ?_
  cases stored with
  | some entry => exact guarded_pure entry
  | none => exact guarded_throw _

theorem resumes_get_document : Resumes (getDocument index type id) s := by
  rw [getDocument]
  by_cases empty : id = ""
  · rw [if_pos empty]
    exact guarded_pure none
  · rw [if_neg empty]
    exact resumes_on (fun _ => guarded_pure none) fun r s => guarded_ask _ rfl

theorem resumes_delete_document : Resumes (deleteDocument index type id) s := by
  rw [deleteDocument]
  by_cases empty : id = ""
  · rw [if_pos empty]
    exact guarded_pure none
  · rw [if_neg empty]
    exact resumes_on (fun _ => guarded_pure none) fun r s => guarded_ask _ rfl

theorem resumes_perform (op : Operation) (s : State) : Resumes op.perform s := by
  cases op with
  | createCatalog | getIndex | findIndices | getType | findTypes => exact resumes_return (resumes_ask _) _
  | createIndex => exact resumes_return resumes_create_index _
  | createType => exact resumes_return resumes_create_type _
  | replaceTypeOptions => exact resumes_return resumes_replace_options _
  | createDocument => exact resumes_return resumes_create_document _
  | getDocument => exact resumes_return resumes_get_document _
  | documentExists => exact resumes_return (resumes_return resumes_get_document _) _
  | updateDocument => exact resumes_return resumes_update_document _
  | deleteDocument => exact resumes_return resumes_delete_document _
  | select =>
      refine resumes_return (resumes_on (fun _ => guarded_pure []) fun r s => ?_) _
      exact guarded_ask _ rfl

end StoreM

namespace Store

open StoreM

structure Recorded where
  recorder : Recorder
  known : KnownRelations

def Recorded.state (s : Recorded) : State := ⟨s.recorder.memory, s.known⟩

def Recorded.arm (s : Recorded) (f : Fault) : Recorded := ⟨s.recorder.arm f, s.known⟩

def Operation.recorded (op : Operation) (s : Recorded) : Result × Recorded :=
  let ((result, known), recorder) := (op.perform.runWith Recorder.answer s.known).run s.recorder
  (result, ⟨recorder, known⟩)

theorem recorded_spent (op : Operation) {s : Recorded} (spent : Recorder.Spent s.recorder.faults) :
    op.recorded s = ((op.step s.state).1,
      ⟨⟨(op.step s.state).2.memory, s.recorder.calls ++ (op.perform s.known).asked s.recorder.memory, s.recorder.faults⟩,
        (op.step s.state).2.known⟩) := by
  have ran := Dialogue.run_recorded (op.perform s.known) s.recorder.memory s.recorder.calls spent
  simp only [Operation.recorded, runWith, ran]
  rfl

/-- Whichever call of an operation fails, the error comes out, and the operation done again ends as if nothing had failed. -/
theorem fault_then_retry_converges (op : Operation) (s : Recorded) (spent : Recorder.Spent s.recorder.faults)
    {before later : List StorageRequest} {call : StorageRequest}
    (made : (op.recorded s).2.recorder.calls = s.recorder.calls ++ (before ++ call :: later)) (e : Failure) :
    ∃ failed, op.recorded (s.arm (.awaiting before call e)) = (.error e, failed) ∧
      failed.recorder.calls = s.recorder.calls ++ (before ++ [call]) ∧ Recorder.Spent failed.recorder.faults ∧
      (op.recorded failed).1 = (op.recorded s).1 ∧ (op.recorded failed).2.state = (op.recorded s).2.state := by
  rw [recorded_spent op spent] at made ⊢
  obtain ⟨left, same, ran⟩ := Dialogue.guarded_interrupted (resumes_perform op s.state) (List.append_cancel_left made)
    s.recorder.calls spent e
  let failed : Recorded := ⟨⟨left.memory, s.recorder.calls ++ (before ++ [call]),
    s.recorder.faults ++ [⟨call.method, some e, 0, 0⟩]⟩, left.known⟩
  have quiet : Recorder.Spent failed.recorder.faults := Recorder.spent_snoc spent _ rfl
  have again : op.step failed.state = op.step s.state := same
  refine ⟨failed, ?_, rfl, quiet, ?_, ?_⟩
  · exact congrArg (fun x => (x.1.1, Recorded.mk x.2 x.1.2)) ran
  · rw [recorded_spent op quiet, again]
  · rw [recorded_spent op quiet, again]
    rfl

def firstWrite : Operation := .createDocument "a" "b" .null none

theorem first_write_retried : Recorder.Spent Recorder.empty.faults ∧
    (firstWrite.recorded ⟨.empty, .empty⟩).2.recorder.calls =
      [] ++ ([.fetchType "a" "b", .insertIndex "a" ""] ++
        .insertType ⟨"a", "b"⟩ "" :: [.insertDocument ⟨"a", "b"⟩ none .null]) ∧
    ∃ failed, firstWrite.recorded (Recorded.arm ⟨.empty, .empty⟩ (.awaiting
        [.fetchType "a" "b", .insertIndex "a" ""] (.insertType ⟨"a", "b"⟩ "") (.transport "gone"))) =
        (.error (.transport "gone"), failed) ∧
      (firstWrite.recorded failed).1 = (firstWrite.recorded ⟨.empty, .empty⟩).1 := by
  have spent : Recorder.Spent Recorder.empty.faults := by simp [Recorder.Spent, Recorder.empty]
  have made : (firstWrite.recorded ⟨.empty, .empty⟩).2.recorder.calls =
      [] ++ ([.fetchType "a" "b", .insertIndex "a" ""] ++
        .insertType ⟨"a", "b"⟩ "" :: [.insertDocument ⟨"a", "b"⟩ none .null]) := rfl
  obtain ⟨failed, ran, _, _, same, _⟩ := fault_then_retry_converges firstWrite ⟨.empty, .empty⟩ spent made (.transport "gone")
  exact ⟨spent, made, failed, ran, same⟩

end Store

end SearchStore

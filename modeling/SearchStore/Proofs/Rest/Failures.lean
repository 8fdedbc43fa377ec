import SearchStore.Proofs.Rest.Writes
import SearchStore.Proofs.Search.Pages
import SearchStore.Proofs.Store.Writing

/-!
Requests that fail. Unless it creates an index, a request that is answered with an error has changed
nothing in memory: what it asks for is checked before anything is written.
-/

set_option autoImplicit false

namespace SearchStore

namespace Rest

open Bulk Store Store.State RestM StoreM

variable {α : Type} {s : State} {index type id text : String} {v : Json} {op : RestM Response}

-- When the response shows an error, the memory is as it was.
def Harmless (op : RestM Response) (s : State) : Prop :=
  400 ≤ (Service.answer (op.inMemory s).1).status → (op.inMemory s).2.memory = s.memory

theorem harmless_given {result : Except Refusal α} {f : α → RestM Response}
    (next : ∀ a, result = .ok a → Harmless (f a) s) : Harmless (liftM result >>= f) s := by
  cases result with
  | error e =>
      intro _
      rw [bind_served, lift_served]
  | ok a => exact next a rfl

theorem harmless_unchanged (unchanged : (op.inMemory s).2.memory = s.memory) : Harmless op s := fun _ => unchanged

theorem written_succeeds (index type : String) (d : Document) : (written index type d).status < 400 := by
  simp only [written, Response.json]
  split <;> omega

theorem harmless_return {op : StoreM α} {respond : α → Response} (succeeds : ∀ a, (respond a).status < 400)
    (unchanged : ∀ e, (op.inMemory s).1 = .error e → (op.inMemory s).2.memory = s.memory) :
    Harmless (do return respond (← RestM.store op)) s := by
  rw [Harmless, reported_served]
  intro failed
  cases result : (op.inMemory s).1 with
  | ok a =>
      rw [result] at failed
      exact absurd failed (Nat.not_le_of_lt (succeeds a))
  | error e => exact unchanged e result

theorem harmless_bulk (reachable : Reachable s) (scope : Scope String) (text : String) : Harmless (bulk scope text) s := by
  refine harmless_return (fun _ => by simp [Response.json]) fun e failed => ?_
  cases parsed : parse text scope.defaults.1 scope.defaults.2 with
  | error e => rw [process_unread parsed, throw_in_memory]
  | ok actions => exact ((process_never_fails parsed s reachable).2.2 e failed).elim

theorem harmless_search (sound : s.Sound) (scope : Scope String) (text : String) : Harmless (search scope text) s := by
  refine harmless_given fun request _ => harmless_unchanged ?_
  obtain ⟨known, ran, _⟩ := Search.reads_run scope.patterns.1 scope.patterns.2 request s s.known sound
  rw [reported_served]
  exact congrArg (·.2.memory) ran

theorem type_fetched (index type : String) (f : Option TypeEntry → RestM Response) (s : State) :
    (RestM.store (getType index type) >>= f).inMemory s = (f (s.memory.typeOf? ⟨index, type⟩)).inMemory s := by
  rw [bind_served, store_served, getType, ask_fetch_type]
  rfl

theorem harmless_mapping_put (sound : s.Sound) : Harmless (putMapping index type text) s := by
  refine harmless_given fun _ _ => ?_
  rw [Harmless, type_fetched]
  cases present : s.memory.typeOf? ⟨index, type⟩ with
  | some entry =>
      refine harmless_return (fun _ => by simp [Response.json]) fun e failed => ?_
      rw [replace_options_in_memory, present] at failed
      cases failed
  | none =>
      refine harmless_return (fun _ => by simp [Response.json]) fun e failed => ?_
      rw [create_type_in_memory sound] at failed ⊢
      cases valid : Relation.ofNames index type with
      | error e => rfl
      | ok r =>
          obtain rfl := relation_of_names valid
          simp only [valid, present] at failed
          cases failed

theorem harmless_mapping (index type : String) (s : State) : Harmless (getMapping index type) s := by
  refine harmless_unchanged ?_
  rw [getMapping, type_fetched]
  cases s.memory.typeOf? ⟨index, type⟩ <;> rfl

theorem creation_unchanged (sound : s.Sound) {given : Option String}
    (untaken : ∀ id ∈ given.filter (· ≠ ""), (s.memory.table ⟨index, type⟩).hasId id = false) (e : Failure)
    (failed : ((Store.createDocument index type v given).inMemory s).1 = .error e) :
    ((Store.createDocument index type v given).inMemory s).2.memory = s.memory := by
  rw [create_document_in_memory sound] at failed ⊢
  generalize given.filter (· ≠ "") = given at untaken failed ⊢
  cases accepted : place index type given with
  | error e => rfl
  | ok r =>
      obtain rfl := relation_of_names (place_iff.mp accepted).2
      rw [accepted] at failed
      cases given with
      | none => cases failed
      | some id =>
          have free : ¬ ((s.provide ⟨index, type⟩ "").memory.table ⟨index, type⟩).hasId id = true := by
            rw [provide_table, untaken id rfl]
            exact Bool.false_ne_true
          simp only [State.insert, if_neg free] at failed
          cases failed

theorem harmless_creation (sound : s.Sound) : Harmless (createDocument index type text) s := by
  refine harmless_given fun source _ => harmless_return (written_succeeds index type) ?_
  exact creation_unchanged sound (by simp)

theorem harmless_fetch (sound : s.Sound) : Harmless (getDocument index type id) s := by
  refine harmless_unchanged ?_
  rw [getDocument, reported_served, get_document_in_memory sound]
  by_cases empty : id = ""
  · rw [if_pos empty]
  · rw [if_neg empty]
    exact touch_memory s _

theorem harmless_deletion (sound : s.Sound) : Harmless (deleteDocument index type id) s := by
  rw [deleteDocument, Harmless, reported_served, delete_document_in_memory sound]
  by_cases empty : id = ""
  · rw [if_pos empty]
    exact fun _ => rfl
  · rw [if_neg empty]
    intro failed
    cases present : s.find? ⟨index, type⟩ id with
    | none => exact touch_memory s _
    | some d =>
        rw [present] at failed
        simp [Except.mapError, Except.map, Service.answer, found, Response.json] at failed

theorem replace_or_create_unchanged (sound : s.Sound) (unshared : s.Unshared ⟨index, type⟩) (e : Failure)
    (failed : ((replaceOrCreate index type id v).inMemory s).1 = .error e) :
    ((replaceOrCreate index type id v).inMemory s).2.memory = s.memory := by
  rw [replaceOrCreate, bind_in_memory, document_exists_in_memory sound] at failed ⊢
  by_cases empty : id = ""
  · rw [if_pos empty] at failed ⊢
    exact creation_unchanged sound (by simp [empty]) e failed
  · rw [if_neg empty] at failed ⊢
    have touched := sound_touch sound ⟨index, type⟩
    cases present : s.find? ⟨index, type⟩ id with
    | some d =>
        rw [present] at failed
        have replaced := update_document_in_memory touched index type v id
        rw [if_neg empty, find_touched, present] at replaced
        cases (congrArg Prod.fst replaced).symm.trans failed
    | none =>
        rw [present] at failed
        refine (creation_unchanged touched ?_ e failed).trans (touch_memory s _)
        intro given supplied
        obtain ⟨rfl, _⟩ : id = given ∧ given ≠ "" := by simpa [empty] using supplied
        rw [touch_memory]
        exact absent_untaken sound unshared present

theorem harmless_put (sound : s.Sound) (unshared : s.Unshared ⟨index, type⟩) : Harmless (putDocument index type id text) s := by
  cases holds : documentOf text with
  | error e =>
      refine harmless_unchanged ?_
      rw [putDocument, bind_served, lift_served, holds]
  | ok v =>
      have same : (putDocument index type id text).inMemory s =
          inMemory (do return written index type (← RestM.store (replaceOrCreate index type id v))) s := by
        rw [put_served index type id holds, reported_served]
      rw [Harmless, same]
      exact harmless_return (written_succeeds index type) (replace_or_create_unchanged sound unshared)

theorem harmless_operation (service : Service) (body : Body) {o : Operation String} (reachable : Reachable s)
    (other : ∀ i, o ≠ .createIndex i) (unshared : ∀ i t d, o = .putDocument i t d → s.Unshared ⟨i, t⟩) :
    Harmless (service.perform body o) s := by
  have sound := reachable_sound reachable
  cases o with
  | info | health => exact harmless_unchanged rfl
  | bulk scope => exact harmless_given fun text _ => harmless_bulk reachable scope text
  | search scope => exact harmless_given fun text _ => harmless_search sound scope text
  | createIndex i => exact absurd rfl (other i)
  | indexExists i => exact harmless_unchanged rfl
  | putMapping i t => exact harmless_given fun text _ => harmless_mapping_put sound
  | getMapping i t => exact harmless_mapping i t s
  | createDocument i t => exact harmless_given fun text _ => harmless_creation sound
  | putDocument i t d => exact harmless_given fun text _ => harmless_put sound (unshared i t d rfl)
  | getDocument i t d => exact harmless_fetch sound
  | deleteDocument i t d => exact harmless_deletion sound

/-- Only a document that is put under an id of its own can find that id in a table another pair has filled. -/
theorem failed_request_changes_nothing (service : Service) (q : Request) (reachable : Reachable s)
    (other : ∀ i, q.operation? ≠ some (.createIndex i))
    (unshared : ∀ i t d, q.operation? = some (.putDocument i t d) → s.Unshared ⟨i, t⟩)
    (failed : 400 ≤ (service.inMemory q s).1.status) : (service.inMemory q s).2.memory = s.memory := by
  cases asked : q.operation? with
  | none => rw [Service.nothing_served asked]
  | some o =>
      rw [Service.operation_served asked, Service.shown_status] at failed
      rw [Service.operation_served asked]
      refine harmless_operation service q.body reachable ?_ ?_ failed
      · rintro i rfl
        exact other i asked
      · rintro i t d rfl
        exact unshared i t d asked

def typedState : State := ((Store.Operation.createType "a" "b" "").step .fresh).2

def unfinishedPut : Request := ⟨.put, "/a/b/1", .ofText "\x7b"⟩

theorem unfinished_put_changes_nothing : Reachable typedState ∧ (∀ i, unfinishedPut.operation? ≠ some (.createIndex i)) ∧
    typedState.Unshared ⟨"a", "b"⟩ ∧ (smallService.inMemory unfinishedPut typedState).1.status = 400 ∧
    (smallService.inMemory unfinishedPut typedState).2.memory = typedState.memory := by
  have asked : unfinishedPut.operation? = some (.putDocument "a" "b" "1") := by decide +kernel
  have other : ∀ i, unfinishedPut.operation? ≠ some (.createIndex i) := by
    intro i
    rw [asked]
    simp
  have reachable : Reachable typedState := reachable_step _ ⟨[], rfl⟩
  have unshared : typedState.Unshared ⟨"a", "b"⟩ := by
    intro p typed _
    have types : typedState.memory.types = [⟨"b", "a", ""⟩] := by decide +kernel
    obtain ⟨entry, present⟩ := Option.isSome_iff_exists.mp typed
    obtain ⟨member, named⟩ := Memory.entry_of_find present
    rw [types, List.mem_singleton] at member
    rw [member] at named
    exact Memory.relation_of_entry named ⟨rfl, rfl⟩
  have failed : (smallService.inMemory unfinishedPut typedState).1.status = 400 := by decide +kernel
  refine ⟨reachable, other, unshared, failed, ?_⟩
  refine failed_request_changes_nothing smallService unfinishedPut reachable other ?_ (Nat.le_of_eq failed.symm)
  intro i t d put
  rw [asked] at put
  cases put
  exact unshared

end Rest

end SearchStore

import SearchStore.Proofs.Rest.Sessions
import SearchStore.Proofs.Store.Writing

/-!
What the answer to a write says of it. Whether a document has been created is told from its version
alone, and yet it is what a request for the document just before would have shown: in every state that
can be reached, version one is only that of a document that was not there.
-/

set_option autoImplicit false

namespace SearchStore

open Store Store.State StoreM

-- The envelope of a write and its status say whether there was a document before, and which comes next.
structure WriteEnvelope.Truthful (before : Option Document) (r : WriteEnvelope) (status : Nat) : Prop where
  created : (r.created = true ∧ r.result = "created" ∧ status = 201) ↔ before = none
  updated : ∀ d, before = some d → r.created = false ∧ r.result = "updated" ∧ status = 200 ∧ r.version = d.version + 1

theorem supersedes_truthful (index type : String) {before : Option Document} {d : Document} (supersedes : Supersedes before d) :
    (WriteEnvelope.ofDocument index type d).Truthful before
      (if (WriteEnvelope.ofDocument index type d).created then 201 else 200) := by
  cases supersedes with
  | first absent version =>
      constructor
      · simp [WriteEnvelope.ofDocument, version, absent]
      · intro e present
        rw [absent] at present
        cases present
  | next e present positive version =>
      have later : (d.version == 1) = false := beq_eq_false_iff_ne.mpr (by omega)
      constructor
      · simp [WriteEnvelope.ofDocument, later, present]
      · intro other same
        rw [present] at same
        cases same
        rw [WriteEnvelope.ofDocument, later]
        exact ⟨rfl, rfl, rfl, version⟩

theorem Store.get_finds {s : State} (reachable : Reachable s) (index type : String) {id : String} (filled : id ≠ "") :
    ((getDocument index type id).inMemory s).1 = .ok (s.find? ⟨index, type⟩ id) := by
  rw [get_document_in_memory (reachable_sound reachable), if_neg filled]

-- An answer to a write: it names the document, and is truthful of what there was.
def Store.State.Answers (s : State) (index type : String) (r : WriteEnvelope) (status : Nat) : Prop :=
  r.index = index ∧ r.type = type ∧
    ∃ before, ((getDocument index type r.id).inMemory s).1 = .ok before ∧ r.Truthful before status

theorem written_answers {s after : State} (reachable : Reachable s) {index type : String} {d : Document}
    (writes : Writes ⟨index, type⟩ s after d) :
    s.Answers index type (WriteEnvelope.ofDocument index type d)
      (if (WriteEnvelope.ofDocument index type d).created then 201 else 200) :=
  ⟨rfl, rfl, _, get_finds reachable index type writes.filled, supersedes_truthful index type writes.supersedes⟩

namespace Rest

open RestM

variable {service : Service} {body : Body} {o : Operation String} {index type : String} {s : State} {response : Response}

inductive Operation.Puts (index type : String) : Operation String → Prop where
  | anew : Puts index type (.createDocument index type)
  | under (id : String) : Puts index type (.putDocument index type id)

theorem answer_succeeds {result : Except Refusal Response} (succeeded : (Service.answer result).status < 400) :
    ∃ response, result = .ok response := by
  cases result with
  | ok response => exact ⟨response, rfl⟩
  | error r => exact absurd succeeded (Nat.not_lt.mpr (refusal_status r))

theorem accepted_first {α : Type} {first : Except Refusal α} {f : α → RestM Response} {after : State}
    (answered : inMemory (liftM first >>= f) s = (.ok response, after)) :
    ∃ a, first = .ok a ∧ (f a).inMemory s = (.ok response, after) := by
  rw [bind_served, lift_served] at answered
  cases first with
  | error r => cases answered
  | ok a => exact ⟨a, rfl, answered⟩

theorem reported {op : StoreM Document} {f : Document → Response} {after : State}
    (answered : ((((op.inMemory s).1.mapError Refusal.store).map f), (op.inMemory s).2) = (.ok response, after)) :
    ∃ d, op.inMemory s = (.ok d, after) ∧ response = f d := by
  generalize op.inMemory s = ran at answered ⊢
  obtain ⟨result, last⟩ := ran
  cases result with
  | error e => cases answered
  | ok d =>
      cases answered
      exact ⟨d, rfl, rfl⟩

theorem put_indexes (index type id : String) {text : String} {v : Json} (holds : documentOf text = .ok v) (s : State) :
    (putDocument index type id text).inMemory s =
      ((((indexDocument index type v (some id)).inMemory s).1.mapError .store).map (written index type),
        ((indexDocument index type v (some id)).inMemory s).2) :=
  put_served index type id holds s

theorem put_performed (puts : o.Puts index type) (reachable : Reachable s) {after : State}
    (answered : (service.perform body o).inMemory s = (.ok response, after)) :
    ∃ d, Writes ⟨index, type⟩ s after d ∧ response = written index type d := by
  cases puts with
  | anew =>
      obtain ⟨text, -, answered⟩ := accepted_first answered
      obtain ⟨v, -, answered⟩ := accepted_first answered
      rw [reported_served] at answered
      obtain ⟨d, made, shown⟩ := reported answered
      exact ⟨d, creation_writes (reachable_sound reachable) made, shown⟩
  | under id =>
      obtain ⟨text, -, answered⟩ := accepted_first answered
      obtain ⟨v, holds, -⟩ := accepted_first answered
      rw [put_indexes index type id holds] at answered
      obtain ⟨d, made, shown⟩ := reported answered
      exact ⟨d, index_writes reachable made, shown⟩

theorem put_answered {q : Request} (puts : o.Puts index type) (reachable : Reachable s) (asked : q.operation? = some o)
    (succeeded : (service.inMemory q s).1.status < 400) :
    ∃ r : WriteEnvelope, (service.inMemory q s).1 = .json (service.inMemory q s).1.status r.toJson ∧
      s.Answers index type r (service.inMemory q s).1.status := by
  have visible : q.verb ≠ .head := writer_visible asked (by cases puts <;> rfl)
  rw [Service.operation_served asked, Service.shown, if_neg visible] at succeeded ⊢
  obtain ⟨response, answered⟩ := answer_succeeds succeeded
  obtain ⟨d, writes, rfl⟩ := put_performed puts reachable (Prod.ext answered rfl)
  rw [answered]
  exact ⟨_, rfl, written_answers reachable writes⟩

end Rest

namespace Bulk

variable {a : Bulk.Action} {actions : List Bulk.Action} {i : ItemEnvelope} {s : State}

def stateAt (k : Nat) (actions : List Bulk.Action) (s : State) : State :=
  (actions.take k).foldl (fun s a => ((item a).inMemory s).2) s

theorem write_executed (acceptable : Acceptable a) (writes : a.kind ≠ .delete) (reachable : Reachable s) {after : State}
    (ran : (execute a).inMemory s = (.ok i, after)) :
    ∃ d, Writes ⟨a.index, a.type⟩ s after d ∧ i = putItem a d ∧
      (a.kind = .update → (s.find? ⟨a.index, a.type⟩ d.id).isSome) := by
  have made {op : StoreM Document} (whole : execute a = do return putItem a (← op)) :
      ∃ d, op.inMemory s = (.ok d, after) ∧ i = putItem a d := by
    rw [whole] at ran
    exact returned ran
  have payload : a.kind.takesPayload = true := by
    cases kind : a.kind with
    | delete => exact absurd kind writes
    | index | create | update => rfl
  obtain ⟨source, filled⟩ := filled_of_payload acceptable payload
  cases kind : a.kind with
  | delete => exact absurd kind writes
  | create =>
      obtain ⟨d, created, rfl⟩ := made (execute_create kind filled)
      refine ⟨d, creation_writes (reachable_sound reachable) created, rfl, fun updates => ?_⟩
      cases updates
  | update =>
      obtain ⟨id, named⟩ := named_of_needed acceptable (by rw [kind]; rfl)
      obtain ⟨d, updated, rfl⟩ := made (execute_update kind filled named)
      obtain ⟨-, e, found, -, here⟩ := update_finds (reachable_sound reachable) (congrArg Prod.fst updated)
      refine ⟨d, update_writes reachable updated, rfl, fun _ => ?_⟩
      rw [here, found]
      rfl
  | index =>
      have whole : execute a = do return putItem a (← indexDocument a.index a.type source a.id) := by
        rw [execute_index kind filled, indexDocument, bind_assoc]
        congr 1
        funext there
        cases there <;> rfl
      obtain ⟨d, indexed, rfl⟩ := made whole
      refine ⟨d, index_writes reachable indexed, rfl, fun updates => ?_⟩
      cases updates

theorem item_executed (acceptable : Acceptable a) (reachable : Reachable s) (ran : ((item a).inMemory s).1 = .ok i)
    (succeeded : i.status < 400) : ((execute a).inMemory s).1 = .ok i := by
  have legal := (execute_legal acceptable s reachable).2.2
  rw [item, try_in_memory] at ran
  generalize (execute a).inMemory s = executed at ran legal ⊢
  obtain ⟨result, after⟩ := executed
  cases result with
  | ok j => exact ran
  | error e =>
      obtain ⟨cause, rfl⟩ := legal e rfl
      cases ran
      exact absurd succeeded (by simp [Failure.status])

theorem item_answers (acceptable : Acceptable a) (writes : a.kind ≠ .delete) (reachable : Reachable s)
    (ran : ((item a).inMemory s).1 = .ok i) (succeeded : i.status < 400) :
    ∃ r, i.outcome = .put r ∧ s.Answers a.index a.type r i.status ∧ (a.kind = .update → r.created = false) := by
  have executed := item_executed acceptable reachable ran succeeded
  obtain ⟨d, wrote, rfl, present⟩ := write_executed acceptable writes reachable (Prod.ext executed rfl)
  refine ⟨_, rfl, written_answers reachable wrote, fun updates => ?_⟩
  obtain ⟨e, found⟩ := Option.isSome_iff_exists.mp (present updates)
  exact ((supersedes_truthful a.index a.type wrote.supersedes).updated e found).1

theorem item_reachable (acceptable : Acceptable a) (reachable : Reachable s) : Reachable ((item a).inMemory s).2 :=
  (item_never_fails acceptable s reachable).1

theorem items_run (acceptable : ∀ a ∈ actions, Acceptable a) (reachable : Reachable s) :
    ∃ items after, (actions.mapM item).inMemory s = (.ok items, after) ∧ items.length = actions.length ∧
      ∀ k a i, actions[k]? = some a → items[k]? = some i →
        Reachable (stateAt k actions s) ∧ ((item a).inMemory (stateAt k actions s)).1 = .ok i := by
  induction actions generalizing s with
  | nil =>
      refine ⟨[], s, rfl, rfl, fun k a i action => ?_⟩
      rw [List.getElem?_nil] at action
      cases action
  | cons a rest ih =>
      obtain ⟨here, others⟩ := List.forall_mem_cons.mp acceptable
      have next := item_reachable here reachable
      obtain ⟨items, after, ran, length, later⟩ := ih others next
      cases first : ((item a).inMemory s).1 with
      | error e => exact ((item_never_fails here s reachable).2.2 e first).elim
      | ok i =>
          have whole : ((a :: rest).mapM item).inMemory s = (.ok (i :: items), after) := by
            rw [List.mapM_cons, bind_in_memory]
            generalize (item a).inMemory s = done at first ran
            obtain ⟨result, between⟩ := done
            cases first
            dsimp only at ran ⊢
            rw [bind_in_memory, ran]
            rfl
          refine ⟨i :: items, after, whole, congrArg Nat.succ length, fun k b j action answer => ?_⟩
          cases k with
          | zero =>
              cases action
              cases answer
              exact ⟨reachable, first⟩
          | succ k => exact later k b j action answer

end Bulk

namespace Rest

variable {service : Service} {s : State}

theorem bulk_answered {q : Request} {scope : Scope String} {text : String} {actions : List Bulk.Action}
    (reachable : Reachable s) (asked : q.operation? = some (.bulk scope)) (read : q.body.read service.bodyLimit = .ok text)
    (parsed : Bulk.parse text scope.defaults.1 scope.defaults.2 = .ok actions) :
    ∃ answer : BulkEnvelope, (service.inMemory q s).1 = Service.shown q.verb (.json 200 answer.toJson) ∧
      answer.items.length = actions.length ∧
      ∀ k a i, actions[k]? = some a → answer.items[k]? = some i → a.kind ≠ .delete → i.status < 400 →
        ∃ r, i.outcome = .put r ∧ (Bulk.stateAt k actions s).Answers a.index a.type r i.status ∧
          (a.kind = .update → r.created = false) := by
  have acceptable := Bulk.parse_acceptable parsed
  obtain ⟨items, after, ran, length, each⟩ := Bulk.items_run acceptable reachable
  refine ⟨⟨0, items.any (·.isError), items⟩, ?_, length, ?_⟩
  · have processed : (Bulk.process text scope.defaults.1 scope.defaults.2).inMemory s =
        (.ok ⟨0, items.any (·.isError), items⟩, after) := by
      rw [Bulk.process_read parsed, Bulk.runAll, bind_in_memory, ran]
      rfl
    have batch : ((service.perform q.body (.bulk scope)).inMemory s).1 =
        .ok (.json 200 (BulkEnvelope.mk 0 (items.any (·.isError)) items).toJson) := by
      rw [Service.perform, RestM.bind_served, RestM.lift_served, read]
      dsimp only
      rw [bulk, RestM.reported_served, processed]
      rfl
    rw [Service.operation_served asked, batch, Service.answer]
  · intro k a i action answer writes succeeded
    obtain ⟨reached, item⟩ := each k a i action answer
    exact Bulk.item_answers (acceptable a (List.mem_of_getElem? action)) writes reached item succeeded

/-- A request for one document, the items of a bulk request, and what a deletion leaves for the next write. -/
theorem writes_answered_truthfully (service : Service) (q : Request) (s : State) (reachable : Reachable s) :
    (∀ index type o, o.Puts index type → q.operation? = some o → (service.inMemory q s).1.status < 400 →
      ∃ r : WriteEnvelope, (service.inMemory q s).1 = .json (service.inMemory q s).1.status r.toJson ∧
        s.Answers index type r (service.inMemory q s).1.status) ∧
    (∀ scope text actions, q.operation? = some (.bulk scope) → q.body.read service.bodyLimit = .ok text →
      Bulk.parse text scope.defaults.1 scope.defaults.2 = .ok actions →
      ∃ answer : BulkEnvelope, (service.inMemory q s).1 = Service.shown q.verb (.json 200 answer.toJson) ∧
        answer.items.length = actions.length ∧
        ∀ k a i, actions[k]? = some a → answer.items[k]? = some i → a.kind ≠ .delete → i.status < 400 →
          ∃ r, i.outcome = .put r ∧ (Bulk.stateAt k actions s).Answers a.index a.type r i.status ∧
            (a.kind = .update → r.created = false)) ∧
    ∀ index type id d after, (Store.deleteDocument index type id).inMemory s = (.ok (some d), after) →
      ((Store.getDocument index type id).inMemory after).1 = .ok none := by
  refine ⟨?_, ?_, ?_⟩
  · intro index type o puts asked succeeded
    exact put_answered puts reachable asked succeeded
  · intro scope text actions asked read parsed
    exact bulk_answered reachable asked read parsed
  · intro index type id d after ran
    have kept := reachable_step (.deleteDocument index type id) reachable
    rw [Store.Operation.step, Store.Operation.perform, return_in_memory, ran] at kept
    obtain ⟨filled, found⟩ := deletion_finds (reachable_sound reachable) (congrArg Prod.fst ran)
    have absent := deleted_absent (reachable_sound reachable) found filled
    rw [ran] at absent
    rw [get_finds kept index type filled, absent]

def documentDeletion : Request := ⟨.delete, "/a/b/1", .ofText ""⟩

theorem recreation_answered_truthfully :
    ∃ r : WriteEnvelope, (smallService.inMemory documentPut (smallService.after [documentPut, documentDeletion] .fresh)).1 =
      .json 201 r.toJson ∧ r.created = true := by
  have fresh : Reachable .fresh := ⟨[], rfl⟩
  have reachable := Service.after_reachable smallService [documentPut, documentDeletion] fresh
  have asked : documentPut.operation? = some (.putDocument "a" "b" "1") := by decide +kernel
  have status :
      (smallService.inMemory documentPut (smallService.after [documentPut, documentDeletion] .fresh)).1.status = 201 := by
    decide +kernel
  obtain ⟨single, -, -⟩ := writes_answered_truthfully smallService documentPut _ reachable
  obtain ⟨r, shown, -, -, before, -, truthful⟩ := single "a" "b" _ (.under "1") asked (by rw [status]; decide)
  rw [status] at shown truthful
  refine ⟨r, shown, ?_⟩
  cases before with
  | none => exact (truthful.created.mpr rfl).1
  | some d => cases (truthful.updated d rfl).2.2.1

end Rest

end SearchStore

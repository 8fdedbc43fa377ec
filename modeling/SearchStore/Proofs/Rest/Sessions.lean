import SearchStore.Proofs.Rest.IndexCreation

/-!
Sessions: requests to one service over a storage in memory, one after another. The store is never at
fault in memory, so a request comes to an internal error only when its own body cannot be read. What
is refused is answered with an envelope that says why.
-/

set_option autoImplicit false

namespace SearchStore

def Failure.OfCaller (e : Failure) : Prop := e.status < 500

theorem malformed_of_caller {α : Type} {result : Except Failure α} (malformed : FailsMalformed result) (e : Failure)
    (failed : result = .error e) : e.OfCaller := by
  obtain ⟨cause, rfl⟩ := malformed e failed
  simp [Failure.OfCaller, Failure.status]

theorem illegal_of_caller {e : Failure} (illegal : Bulk.IsIllegal e) : e.OfCaller := by
  obtain ⟨cause, rfl⟩ := illegal
  simp [Failure.OfCaller, Failure.status]

namespace Store

open StoreM Store.State

theorem step_of_caller (op : Operation) {s : State} (sound : s.Sound) (e : Failure) (failed : (op.step s).1 = .error e) :
    e.OfCaller := by
  cases op with
  | createCatalog | getIndex | findIndices | getType | findTypes => cases failed
  | createIndex name options =>
      rw [Operation.step, Operation.perform, return_in_memory, create_index_in_memory] at failed
      cases named : checkIndexName name with
      | error refused =>
          rw [named] at failed
          cases failed
          exact malformed_of_caller (check_index_name_malformed name) e named
      | ok =>
          rw [named] at failed
          cases present : s.memory.index? name with
          | some entry =>
              rw [present] at failed
              cases failed
              exact illegal_of_caller ⟨_, rfl⟩
          | none =>
              rw [present] at failed
              cases failed
  | createType index type options =>
      rw [Operation.step, Operation.perform, return_in_memory, create_type_in_memory sound] at failed
      cases valid : Relation.ofNames index type with
      | error refused =>
          rw [valid] at failed
          cases failed
          exact malformed_of_caller (of_names_malformed index type) e valid
      | ok r =>
          cases present : s.memory.typeOf? r with
          | some entry =>
              simp only [valid, present] at failed
              cases failed
              exact illegal_of_caller ⟨_, rfl⟩
          | none =>
              simp only [valid, present] at failed
              cases failed
  | replaceTypeOptions index type options =>
      rw [Operation.step, Operation.perform, return_in_memory, replace_options_in_memory] at failed
      cases present : s.memory.typeOf? ⟨index, type⟩ with
      | some entry =>
          rw [present] at failed
          cases failed
      | none =>
          rw [present] at failed
          cases failed
          exact illegal_of_caller ⟨_, rfl⟩
  | createDocument index type source id =>
      rw [Operation.step, Operation.perform, return_in_memory, create_document_in_memory sound] at failed
      cases accepted : place index type (id.filter (· ≠ "")) with
      | error refused =>
          rw [accepted] at failed
          cases failed
          exact malformed_of_caller (place_malformed _ _ _) e accepted
      | ok r =>
          rw [accepted] at failed
          exact illegal_of_caller (Bulk.inserted_legal _ _ _ _ e (error_of_map failed))
  | getDocument index type id =>
      rw [Operation.step, Operation.perform, return_in_memory, get_document_in_memory sound] at failed
      split at failed <;> cases failed
  | documentExists index type id =>
      rw [Operation.step, Operation.perform, return_in_memory, document_exists_in_memory sound] at failed
      split at failed <;> cases failed
  | updateDocument index type source id =>
      rw [Operation.step, Operation.perform, return_in_memory, update_document_in_memory sound] at failed
      split at failed
      · cases failed
        exact illegal_of_caller ⟨_, rfl⟩
      · split at failed
        · cases failed
          exact illegal_of_caller ⟨_, rfl⟩
        · cases failed
  | deleteDocument index type id =>
      rw [Operation.step, Operation.perform, return_in_memory, delete_document_in_memory sound] at failed
      split at failed <;> cases failed
  | select index type predicate =>
      rw [Operation.step, Operation.perform, return_in_memory, select_in_memory sound] at failed
      cases failed

section

variable {α β : Type} {op : StoreM α} {good : α → Prop} {fine : β → Prop} {bad : Failure → Prop}

theorem ensures_of_caller (shown : Operation) (wrap : α → Outcome) (performs : shown.perform = do return wrap (← op)) :
    Bulk.Ensures op (fun _ => True) Failure.OfCaller := by
  intro s reachable
  have kept := reachable_step shown reachable
  have failing := step_of_caller shown (reachable_sound reachable)
  rw [Operation.step, performs, return_in_memory] at kept failing
  refine ⟨kept, fun _ _ => trivial, fun e failed => failing e ?_⟩
  rw [failed]
  rfl

theorem ensures_lift {result : Except Failure α} (fails : ∀ e, result = .error e → bad e) :
    Bulk.Ensures (liftM result) (fun _ => True) bad := by
  intro s reachable
  rw [lift_in_memory]
  exact ⟨reachable, fun _ _ => trivial, fails⟩

theorem ensures_throw {e : Failure} (fails : bad e) : Bulk.Ensures (throw e : StoreM α) good bad := by
  intro s reachable
  refine ⟨reachable, ?_, ?_⟩
  · rintro _ ⟨⟩
  · rintro _ ⟨⟩
    exact fails

theorem ensures_each {f : α → StoreM β} (each : ∀ a, Bulk.Ensures (f a) (fun _ => True) bad) (items : List α) :
    Bulk.Ensures (items.mapM f) (fun _ => True) bad := by
  induction items with
  | nil =>
      rw [List.mapM_nil]
      exact Bulk.ensures_pure trivial
  | cons item rest ih =>
      rw [List.mapM_cons]
      refine Bulk.ensures_bind (each item) fun b _ => ?_
      exact Bulk.ensures_bind ih fun later _ => Bulk.ensures_pure trivial

end

theorem hits_of_caller (request : SearchRequest) (index type : String) :
    Bulk.Ensures (Search.hitsOf request index type) (fun _ => True) Failure.OfCaller := by
  have compiled : Bulk.Ensures (Search.predicateFor request index type) (fun _ => True) Failure.OfCaller := by
    rw [Search.predicateFor]
    cases request.query with
    | none => exact Bulk.ensures_pure trivial
    | some query =>
        refine Bulk.ensures_bind (ensures_of_caller (.getType index type) .foundType rfl) fun entry _ => ?_
        exact ensures_lift (malformed_of_caller (Query.json_malformed _ query))
  refine Bulk.ensures_bind compiled fun predicate _ => ?_
  refine Bulk.ensures_bind (ensures_of_caller (.select index type predicate) .documents rfl) fun documents _ => ?_
  exact Bulk.ensures_pure trivial

theorem search_of_caller (indexPattern typePattern : String) (request : SearchRequest) :
    Bulk.Ensures (Search.run indexPattern typePattern request) (fun _ => True) Failure.OfCaller := by
  have inside (index : String) : Bulk.Ensures (Search.hitsIn request typePattern index) (fun _ => True) Failure.OfCaller := by
    refine Bulk.ensures_bind (ensures_of_caller (.findTypes index typePattern) .names rfl) fun types _ => ?_
    exact ensures_each (hits_of_caller request index) types
  refine Bulk.ensures_bind (ensures_of_caller (.findIndices indexPattern) .names rfl) fun indices _ => ?_
  refine Bulk.ensures_bind (ensures_each inside indices) fun hits _ => ?_
  by_cases nothing : hits.flatten.isEmpty = true
  · rw [if_pos nothing]
    have refused : Bulk.Ensures (throw (.illegalOperation .nothingToSearch) : StoreM PUnit) (fun _ => True)
        Failure.OfCaller := ensures_throw (illegal_of_caller ⟨_, rfl⟩)
    exact Bulk.ensures_bind refused fun _ _ => Bulk.ensures_pure trivial
  · rw [if_neg nothing]
    exact Bulk.ensures_pure trivial

def AllLegal (items : List ItemEnvelope) : Prop :=
  ∀ i ∈ items, ∀ error, i.outcome = .failed error → ∃ a cause, i = Bulk.failedItem a (.illegalOperation cause)

theorem failures_legal {actions : List Bulk.Action} {items : List ItemEnvelope}
    (all : List.Forall₂ Bulk.IsItemOf actions items) : AllLegal items := by
  induction all with
  | nil => simp [AllLegal]
  | cons first _ ih =>
      intro i member error failed
      rcases List.mem_cons.mp member with rfl | later
      · exact ⟨_, first.2 error failed⟩
      · exact ih i later error failed

theorem bulk_of_caller (text : String) (index type : Option String) :
    Bulk.Ensures (Bulk.process text index type) (fun answer => AllLegal answer.items) Failure.OfCaller := by
  cases parsed : Bulk.parse text index type with
  | error e =>
      rw [Bulk.process_unread parsed]
      exact ensures_throw (malformed_of_caller (Bulk.parse_malformed text index type) e parsed)
  | ok actions =>
      intro s reachable
      obtain ⟨kept, succeeded, failed⟩ := Bulk.process_never_fails parsed s reachable
      exact ⟨kept, fun answer answered => failures_legal (succeeded answer answered), fun e ended => (failed e ended).elim⟩

end Store

namespace Rest

open Store StoreM RestM

variable {α β : Type} {service : Service} {q : Request} {s : State} {r : Refusal}

def Refusal.Excused (r : Refusal) (fault : Option String) : Prop :=
  r.status = 500 → ∃ text, fault = some text ∧ r = .store (.transport (bufferFault text))

def Serves (op : RestM α) (good : α → Prop) (fault : Option String) : Prop :=
  ∀ s, Reachable s → Reachable (op.inMemory s).2 ∧
    (∀ a, (op.inMemory s).1 = .ok a → good a) ∧ ∀ r, (op.inMemory s).1 = .error r → r.Excused fault

section

variable {op : RestM α} {good : α → Prop} {fine : β → Prop} {fault : Option String}

theorem serves_pure {a : α} (holds : good a) : Serves (pure a) good fault := by
  intro s reachable
  refine ⟨reachable, ?_, ?_⟩
  · rintro _ ⟨⟩
    exact holds
  · rintro _ ⟨⟩

theorem serves_bind {f : α → RestM β} (first : Serves op good fault) (next : ∀ a, good a → Serves (f a) fine fault) :
    Serves (op >>= f) fine fault := by
  intro s reachable
  have held := first s reachable
  rw [bind_served]
  generalize op.inMemory s = ran at held ⊢
  obtain ⟨result, after⟩ := ran
  obtain ⟨kept, succeeded, failed⟩ := held
  cases result with
  | error r =>
      refine ⟨kept, ?_, ?_⟩
      · rintro _ ⟨⟩
      · rintro _ ⟨⟩
        exact failed r rfl
  | ok a => exact next a (succeeded a rfl) after kept

theorem serves_imp {other : α → Prop} (kept : Serves op good fault) (weaker : ∀ a, good a → other a) :
    Serves op other fault := by
  intro s reachable
  obtain ⟨next, succeeded, excused⟩ := kept s reachable
  exact ⟨next, fun a answered => weaker a (succeeded a answered), excused⟩

theorem serves_lift {result : Except Refusal α} (excused : ∀ r, result = .error r → r.Excused fault) :
    Serves (liftM result) (fun _ => True) fault := by
  intro s reachable
  rw [lift_served]
  exact ⟨reachable, fun _ _ => trivial, excused⟩

theorem serves_store {op : StoreM α} (ensured : Bulk.Ensures op good Failure.OfCaller) : Serves (RestM.store op) good fault := by
  intro s reachable
  obtain ⟨kept, succeeded, failed⟩ := ensured s reachable
  rw [store_served]
  refine ⟨kept, ?_, ?_⟩
  · intro a answered
    cases result : (op.inMemory s).1 with
    | ok b =>
        rw [result] at answered
        cases answered
        exact succeeded a result
    | error e =>
        rw [result] at answered
        cases answered
  · intro r refused
    cases result : (op.inMemory s).1 with
    | ok b =>
        rw [result] at refused
        cases refused
    | error e =>
        rw [result] at refused
        cases refused
        intro internal
        exact absurd internal (Nat.ne_of_lt (failed e result))

end

theorem read_excused (limit : Nat) (body : Body) (r : Refusal) (refused : body.read limit = .error r) :
    r.Excused body.failure := by
  rw [Body.read] at refused
  split at refused
  · cases refused
    simp [Refusal.Excused, Refusal.status]
  · cases fault : body.failure with
    | some text =>
        simp only [fault] at refused
        cases refused
        exact fun _ => ⟨text, rfl, rfl⟩
    | none =>
        simp only [fault] at refused
        split at refused
        · cases refused
        · cases refused
          simp [Refusal.Excused, Refusal.status, Failure.status]

def Fine (response : Response) : Prop := response.status < 500

theorem written_fine (index type : String) (d : Document) : Fine (written index type d) :=
  (written_succeeds index type d).trans (by omega)

theorem found_fine (index type id : String) (d : Option Document) : Fine (found index type id d) := by
  simp only [Fine, found, Response.json]
  split <;> omega

theorem serves_operation {fault : Option String} {op : StoreM α} (shown : Store.Operation) (wrap : α → Outcome)
    (performs : shown.perform = do return wrap (← op)) : Serves (RestM.store op) (fun _ => True) fault :=
  serves_store (ensures_of_caller shown wrap performs)

theorem serves_text {fault : Option String} {result : Except Refusal α}
    (malformed : ∀ r, result = .error r → ∃ cause, r = .store (.malformedInput cause)) :
    Serves (liftM result) (fun _ => True) fault := by
  refine serves_lift fun r refused internal => ?_
  obtain ⟨cause, rfl⟩ := malformed r refused
  cases internal

theorem document_malformed (text : String) (r : Refusal) (refused : documentOf text = .error r) :
    ∃ cause, r = .store (.malformedInput cause) := by
  rw [documentOf] at refused
  repeat' split at refused
  all_goals cases refused
  all_goals exact ⟨_, rfl⟩

theorem value_malformed (text : String) (r : Refusal) (refused : valueOf text = .error r) :
    ∃ cause, r = .store (.malformedInput cause) := by
  rw [valueOf] at refused
  repeat' split at refused
  all_goals cases refused
  all_goals exact ⟨_, rfl⟩

theorem search_malformed (text : String) (r : Refusal) (refused : searchOf text = .error r) :
    ∃ cause, r = .store (.malformedInput cause) := by
  rw [searchOf] at refused
  repeat' split at refused
  all_goals cases refused
  all_goals exact ⟨_, rfl⟩

theorem create_types_served (index : String) (mappings : List (String × Json)) (fault : Option String) :
    Serves (createTypes index mappings) (fun _ => True) fault := by
  induction mappings with
  | nil => exact serves_pure trivial
  | cons m rest ih => exact serves_bind (serves_operation (.createType index m.1 m.2.text) .type rfl) fun _ _ => ih

theorem mapping_put_served (index type text : String) (fault : Option String) : Serves (putMapping index type text) Fine fault := by
  refine serves_bind (serves_text (value_malformed text)) fun _ _ => ?_
  refine serves_bind (serves_operation (.getType index type) .foundType rfl) fun entry _ => ?_
  have acknowledged : Fine (.json 200 (Acknowledged.mk true).toJson) := by simp [Fine, Response.json]
  split
  · refine serves_bind (serves_operation (.replaceTypeOptions index type text) .type rfl) fun _ _ => ?_
    exact serves_pure acknowledged
  · refine serves_bind (serves_operation (.createType index type text) .type rfl) fun _ _ => ?_
    exact serves_pure acknowledged

theorem document_put_served (index type id text : String) (fault : Option String) :
    Serves (putDocument index type id text) Fine fault := by
  refine serves_bind (serves_text (document_malformed text)) fun source _ => ?_
  refine serves_bind (serves_operation (.documentExists index type id) .flag rfl) fun there _ => ?_
  split
  · refine serves_bind (serves_operation (.updateDocument index type source id) .document rfl) fun d _ => ?_
    exact serves_pure (written_fine index type d)
  · refine serves_bind (serves_operation (.createDocument index type source (some id)) .document rfl) fun d _ => ?_
    exact serves_pure (written_fine index type d)

def Batched (response : Response) : Prop := ∃ answer : BulkEnvelope, response = .json 200 answer.toJson ∧ AllLegal answer.items

theorem bulk_served (service : Service) (body : Body) (scope : Scope String) :
    Serves (service.perform body (.bulk scope)) Batched body.failure := by
  refine serves_bind (serves_lift (read_excused service.bodyLimit body)) fun text _ => ?_
  refine serves_bind (serves_store (bulk_of_caller text scope.defaults.1 scope.defaults.2)) fun answer legal => ?_
  exact serves_pure ⟨answer, rfl, legal⟩

theorem operation_excused (service : Service) (body : Body) (o : Operation String) :
    Serves (service.perform body o) Fine body.failure := by
  have read := serves_lift (read_excused service.bodyLimit body)
  cases o with
  | info | health => exact serves_pure (by simp [Fine, Response.json])
  | bulk scope =>
      refine serves_imp (bulk_served service body scope) ?_
      rintro _ ⟨answer, rfl, -⟩
      simp [Fine, Response.json]
  | search scope =>
      refine serves_bind read fun text _ => serves_bind (serves_text (search_malformed text)) fun request _ => ?_
      refine serves_bind (serves_store (search_of_caller _ _ request)) fun answer _ => ?_
      exact serves_pure (by simp [Fine, Response.json])
  | createIndex i =>
      refine serves_bind read fun text _ => ?_
      rw [create_index_parts]
      refine serves_bind (serves_text (value_malformed text)) fun options _ => ?_
      refine serves_bind (serves_operation (.createIndex i text) .index rfl) fun _ _ => ?_
      refine serves_bind (create_types_served i (declared options) body.failure) fun _ _ => ?_
      exact serves_pure (by simp [Fine, Response.json])
  | indexExists i =>
      refine serves_bind (serves_operation (.getIndex i) .foundIndex rfl) fun entry _ => serves_pure ?_
      simp only [Fine, Response.bare]
      split <;> omega
  | putMapping i t => exact serves_bind read fun text _ => mapping_put_served i t text body.failure
  | getMapping i t =>
      refine serves_bind (serves_operation (.getType i t) .foundType rfl) fun entry _ => ?_
      cases entry with
      | some record => exact serves_pure (by simp [Fine, Response.json])
      | none =>
          intro s reachable
          refine ⟨reachable, ?_, ?_⟩
          · rintro _ ⟨⟩
          · rintro _ ⟨⟩
            simp [Refusal.Excused, Refusal.status]
  | createDocument i t =>
      refine serves_bind read fun text _ => serves_bind (serves_text (document_malformed text)) fun source _ => ?_
      refine serves_bind (serves_operation (.createDocument i t source none) .document rfl) fun d _ => ?_
      exact serves_pure (written_fine i t d)
  | putDocument i t d => exact serves_bind read fun text _ => document_put_served i t d text body.failure
  | getDocument i t d =>
      refine serves_bind (serves_operation (.getDocument i t d) .foundDocument rfl) fun document _ => ?_
      exact serves_pure (found_fine i t d document)
  | deleteDocument i t d =>
      refine serves_bind (serves_operation (.deleteDocument i t d) .foundDocument rfl) fun document _ => ?_
      exact serves_pure (found_fine i t d document)

namespace Service

def refusal? (service : Service) (q : Request) (s : State) : Option Refusal :=
  q.operation?.bind fun o =>
    match ((service.perform q.body o).inMemory s).1 with
    | .ok _ => none
    | .error r => some r

def after (service : Service) (requests : List Request) (s : State) : State :=
  requests.foldl (fun s q => (service.inMemory q s).2) s

theorem refusal_iff : service.refusal? q s = some r ↔
    ∃ o, q.operation? = some o ∧ ((service.perform q.body o).inMemory s).1 = .error r := by
  rw [refusal?, Option.bind_eq_some_iff]
  refine exists_congr fun o => and_congr_right fun _ => ?_
  cases ((service.perform q.body o).inMemory s).1 <;> simp

theorem served_reachable (service : Service) (q : Request) (reachable : Reachable s) : Reachable (service.inMemory q s).2 := by
  cases asked : q.operation? with
  | none =>
      rw [nothing_served asked]
      exact reachable
  | some o =>
      rw [operation_served asked]
      exact (operation_excused service q.body o s reachable).1

theorem after_reachable (service : Service) (requests : List Request) (reachable : Reachable s) :
    Reachable (service.after requests s) := by
  induction requests generalizing s with
  | nil => exact reachable
  | cons q rest ih => exact ih (served_reachable service q reachable)

theorem refusal_excused (reachable : Reachable s) (refused : service.refusal? q s = some r) : r.Excused q.body.failure := by
  obtain ⟨o, _, failed⟩ := refusal_iff.mp refused
  exact (operation_excused service q.body o s reachable).2.2 r failed

theorem refusal_shown (refused : service.refusal? q s = some r) : (service.inMemory q s).1 = shown q.verb (.refused r) := by
  obtain ⟨o, asked, failed⟩ := refusal_iff.mp refused
  rw [operation_served asked, failed, answer]

theorem nothing_fine (unasked : q.operation? = none) : Fine (service.inMemory q s).1 := by
  rw [Fine, respond_served, shown_status, respond]
  cases led : Resource.ofPath? q.path with
  | none => exact (by omega : 404 < 500)
  | some resource =>
      simp only
      cases applies : Operation.of? q.verb resource with
      | none => exact (by omega : 405 < 500)
      | some operation =>
          simp only
          cases decoded : operation.decode with
          | error noun => exact (by omega : 400 < 500)
          | ok named => simp [Request.operation?, led, applies, decoded, Except.toOption] at unasked

theorem answered (unrefused : service.refusal? q s = none) {o : Operation String} (asked : q.operation? = some o) :
    ∃ response, ((service.perform q.body o).inMemory s).1 = .ok response ∧
      (service.inMemory q s).1 = shown q.verb response := by
  rw [operation_served asked]
  cases result : ((service.perform q.body o).inMemory s).1 with
  | error r => simp [refusal?, asked, result] at unrefused
  | ok response => exact ⟨response, rfl, rfl⟩

theorem unrefused_fine (reachable : Reachable s) (unrefused : service.refusal? q s = none) : Fine (service.inMemory q s).1 := by
  cases asked : q.operation? with
  | none => exact nothing_fine asked
  | some o =>
      obtain ⟨response, performed, served⟩ := answered unrefused asked
      rw [Fine, served, shown_status]
      exact (operation_excused service q.body o s reachable).2.1 response performed

end Service

-- The envelope of a refusal: it has the status of its response, and one cause that repeats type and
-- reason.
inductive Response.Envelops (r : Refusal) : Response → Prop where
  | error (v error cause : Json) (stated : v.get? "status" = some (.ofNat r.status))
      (failed : v.get? "error" = some error) (typed : error.get? "type" = some (.string r.wireType))
      (reasoned : error.get? "reason" = some (.string r.reason)) (rooted : error.get? "root_cause" = some (.array [cause]))
      (repeated : cause.get? "type" = some (.string r.wireType))
      (explained : cause.get? "reason" = some (.string r.reason)) : Envelops r (.json r.status v)

theorem refused_envelops (r : Refusal) : (Response.refused r).Envelops r := by
  refine .error _ r.envelope.error.toJson (Cause.mk r.wireType r.reason).toJson ?_ ?_ ?_ ?_ ?_ ?_ ?_
  all_goals
    simp [Refusal.envelope, ErrorEnvelope.ofParts, ErrorEnvelope.toJson, ErrorBody.toJson, Cause.toJson, Json.ofMembers,
      Keyed.ofList, Json.get?, Keyed.find_insert_same, Keyed.find_insert_other]

structure Shows (q : Request) (r : Refusal) (response : Response) : Prop where
  excused : r.status = 500 → ∃ text, q.body.failure = some text ∧ r = .store (.transport (bufferFault text))
  unqueried : ∀ cause, r ≠ .store (.queryFailure cause)
  consistent : ∀ cause, r ≠ .store (.internal cause)
  status : response.status = r.status
  hidden : q.verb = .head → response.content = .nothing
  enveloped : q.verb ≠ .head → response.Envelops r

theorem refusal_shows (reachable : Reachable s) (refused : service.refusal? q s = some r) :
    Shows q r (service.inMemory q s).1 := by
  have excused := Service.refusal_excused reachable refused
  rw [Service.refusal_shown refused]
  refine ⟨excused, ?_, ?_, Service.shown_status q.verb _, ?_, ?_⟩
  · rintro cause rfl
    obtain ⟨text, -, other⟩ := excused rfl
    cases other
  · rintro cause rfl
    obtain ⟨text, -, other⟩ := excused rfl
    cases other
  · intro head
    rw [Service.shown, if_pos head]
    rfl
  · intro visible
    rw [Service.shown, if_neg visible]
    exact refused_envelops r

/-- Over a memory no request is answered with an internal error, unless its body cannot be read, and every refusal shows its
cause once more. -/
theorem sessions_show_no_fault (service : Service) {start : State} (reachable : Reachable start) (before : List Request)
    (q : Request) :
    let s := service.after before start
    let response := (service.inMemory q s).1
    (response.status = 500 → ∃ text, q.body.failure = some text ∧
      service.refusal? q s = some (.store (.transport (bufferFault text)))) ∧
    (∀ r, service.refusal? q s = some r → Shows q r response) ∧
    ∀ scope, q.operation? = some (.bulk scope) → service.refusal? q s = none →
      ∃ batched, Batched batched ∧ response = Service.shown q.verb batched := by
  intro s response
  have reached : Reachable s := Service.after_reachable service before reachable
  refine ⟨?_, fun r refused => refusal_shows reached refused, ?_⟩
  · intro internal
    cases refused : service.refusal? q s with
    | none => exact absurd internal (Nat.ne_of_lt (Service.unrefused_fine reached refused))
    | some r =>
        have shows := refusal_shows reached refused
        obtain ⟨text, fault, rfl⟩ := shows.excused (shows.status.symm.trans internal)
        exact ⟨text, fault, rfl⟩
  · intro scope asked unrefused
    obtain ⟨batched, performed, served⟩ := Service.answered unrefused asked
    exact ⟨batched, (bulk_served service q.body scope s reached).2.1 batched performed, served⟩

def brokenPut : Request := ⟨.put, "/a/b/1", ⟨[], some "reset"⟩⟩

theorem broken_body_excused : Reachable .fresh ∧
    (smallService.inMemory brokenPut (smallService.after [documentPut] .fresh)).1.status = 500 ∧
    ∃ text, brokenPut.body.failure = some text ∧
      smallService.refusal? brokenPut (smallService.after [documentPut] .fresh) =
        some (.store (.transport (bufferFault text))) := by
  have fresh : Reachable .fresh := ⟨[], rfl⟩
  have internal : (smallService.inMemory brokenPut (smallService.after [documentPut] .fresh)).1.status = 500 := by
    decide +kernel
  exact ⟨fresh, internal, (sessions_show_no_fault smallService fresh [documentPut] brokenPut).1 internal⟩

end Rest

end SearchStore

import SearchStore.Proofs.Bulk.Order
import SearchStore.Proofs.Store.Effects

/-!
Bulk requests on a storage in memory. A body that is not read asks nothing of any storage. One that
is read runs to its end, because the store accepts the names and the ids a body is read with.
-/

set_option autoImplicit false

namespace SearchStore.Bulk

open StoreM Store Store.State

def Ensures {α : Type} (op : StoreM α) (good : α → Prop) (bad : Failure → Prop) : Prop :=
  ∀ s, Reachable s → Reachable (op.inMemory s).2 ∧
    (∀ a, (op.inMemory s).1 = .ok a → good a) ∧ ∀ e, (op.inMemory s).1 = .error e → bad e

section

variable {α β : Type} {op : StoreM α} {good : α → Prop} {fine : β → Prop} {bad worse : Failure → Prop}

theorem ensures_pure {a : α} (holds : good a) : Ensures (pure a) good bad := by
  intro s reachable
  refine ⟨reachable, ?_, ?_⟩
  · rintro _ ⟨⟩
    exact holds
  · rintro _ ⟨⟩

theorem ensures_bind {f : α → StoreM β} (first : Ensures op good bad) (next : ∀ a, good a → Ensures (f a) fine bad) :
    Ensures (op >>= f) fine bad := by
  intro s reachable
  have held := first s reachable
  rw [bind_in_memory]
  generalize op.inMemory s = ran at held ⊢
  obtain ⟨result, after⟩ := ran
  obtain ⟨kept, succeeded, failed⟩ := held
  cases result with
  | error e =>
      refine ⟨kept, ?_, ?_⟩
      · rintro _ ⟨⟩
      · rintro _ ⟨⟩
        exact failed e rfl
  | ok a => exact next a (succeeded a rfl) after kept

theorem ensures_tryCatch {handler : Failure → StoreM α} (first : Ensures op good bad)
    (handled : ∀ e, bad e → Ensures (handler e) good worse) : Ensures (tryCatch op handler) good worse := by
  intro s reachable
  have held := first s reachable
  rw [try_in_memory]
  generalize op.inMemory s = ran at held ⊢
  obtain ⟨result, after⟩ := ran
  obtain ⟨kept, succeeded, failed⟩ := held
  cases result with
  | error e => exact handled e (failed e rfl) after kept
  | ok a =>
      refine ⟨kept, ?_, ?_⟩
      · rintro _ ⟨⟩
        exact succeeded a rfl
      · rintro _ ⟨⟩

end

def IsIllegal (e : Failure) : Prop := ∃ cause, e = .illegalOperation cause

theorem ensures_operation {α : Type} {op : StoreM α} (shown : Operation) (wrap : α → Outcome)
    (performs : shown.perform = do return wrap (← op))
    (legal : ∀ s, Reachable s → ∀ e, (op.inMemory s).1 = .error e → IsIllegal e) :
    Ensures op (fun _ => True) IsIllegal := by
  intro s reachable
  have kept := reachable_step shown reachable
  rw [Operation.step, performs, return_in_memory] at kept
  exact ⟨kept, fun _ _ => trivial, legal s reachable⟩

variable {index type : String} {source : Json}

theorem inserted_legal (s : State) (r : Relation) (source : Json) (id : Option String) (e : Failure)
    (failed : (s.insert r source id).1 = .error e) : IsIllegal e := by
  cases id with
  | none => cases failed
  | some id =>
      rw [State.insert] at failed
      split at failed
      · cases failed
        exact ⟨_, rfl⟩
      · cases failed

theorem create_legal {id : Option String} (admitted : place index type (id.filter (· ≠ "")) = .ok ⟨index, type⟩) :
    Ensures (createDocument index type source id) (fun _ => True) IsIllegal := by
  refine ensures_operation (.createDocument index type source id) .document rfl ?_
  intro s reachable e failed
  rw [create_document_in_memory (reachable_sound reachable), admitted] at failed
  exact inserted_legal _ _ _ _ e failed

theorem create_malformed {s : State} (sound : s.Sound) {id : Option String} :
    (∃ cause, ((createDocument index type source id).inMemory s).1 = .error (.malformedInput cause)) ↔
      ∀ r, place index type (id.filter (· ≠ "")) ≠ .ok r := by
  rw [create_document_in_memory sound]
  cases accepted : place index type (id.filter (· ≠ "")) with
  | error e =>
      obtain ⟨cause, rfl⟩ := place_malformed _ _ _ e accepted
      constructor
      · rintro _ r ⟨⟩
      · intro _
        exact ⟨cause, rfl⟩
  | ok r =>
      constructor
      · rintro ⟨cause, failed⟩
        obtain ⟨other, same⟩ := inserted_legal _ _ _ _ _ failed
        cases same
      · intro refused
        exact absurd rfl (refused r)

theorem update_legal {id : String} : Ensures (updateDocument index type source id) (fun _ => True) IsIllegal := by
  refine ensures_operation (.updateDocument index type source id) .document rfl ?_
  intro s reachable e failed
  rw [update_document_in_memory (reachable_sound reachable)] at failed
  split at failed
  · cases failed
    exact ⟨_, rfl⟩
  · split at failed
    · cases failed
      exact ⟨_, rfl⟩
    · cases failed

theorem delete_legal {id : String} : Ensures (deleteDocument index type id) (fun _ => True) IsIllegal := by
  refine ensures_operation (.deleteDocument index type id) .foundDocument rfl ?_
  intro s reachable e failed
  rw [delete_document_in_memory (reachable_sound reachable)] at failed
  split at failed <;> cases failed

theorem exists_legal {id : String} : Ensures (documentExists index type id) (fun _ => True) IsIllegal := by
  refine ensures_operation (.documentExists index type id) .flag rfl ?_
  intro s reachable e failed
  rw [document_exists_in_memory (reachable_sound reachable)] at failed
  split at failed <;> cases failed

def IsItemOf (a : Bulk.Action) (i : ItemEnvelope) : Prop :=
  i.kind = a.kind ∧ ∀ error, i.outcome = .failed error → ∃ cause, i = failedItem a (.illegalOperation cause)

theorem written_item {op : StoreM Document} (a : Bulk.Action) (legal : Ensures op (fun _ => True) IsIllegal) :
    Ensures (do return putItem a (← op)) (IsItemOf a) IsIllegal := by
  refine ensures_bind legal fun d _ => ensures_pure ⟨rfl, ?_⟩
  rintro _ ⟨⟩

theorem execute_legal {a : Bulk.Action} (acceptable : Acceptable a) : Ensures (execute a) (IsItemOf a) IsIllegal := by
  have admitted := acceptable.admitted
  rw [← kept_id acceptable.toAddressed] at admitted
  rw [execute]
  cases kind : a.kind with
  | create => exact written_item a (create_legal admitted)
  | update => exact written_item a update_legal
  | delete =>
      refine ensures_bind delete_legal fun removed _ => ensures_pure ⟨kind.symm, ?_⟩
      rintro _ ⟨⟩
  | index =>
      refine ensures_bind exists_legal fun there _ => ?_
      cases there with
      | true => exact written_item a update_legal
      | false => exact written_item a (create_legal admitted)

theorem item_never_fails {a : Bulk.Action} (acceptable : Acceptable a) :
    Ensures (item a) (IsItemOf a) fun _ => False := by
  refine ensures_tryCatch (execute_legal acceptable) ?_
  rintro e ⟨cause, rfl⟩
  exact ensures_pure ⟨rfl, fun _ _ => ⟨cause, rfl⟩⟩

theorem items_never_fail {actions : List Bulk.Action} (acceptable : ∀ a ∈ actions, Acceptable a) :
    Ensures (actions.mapM item) (List.Forall₂ IsItemOf actions) fun _ => False := by
  induction actions with
  | nil =>
      rw [List.mapM_nil]
      exact ensures_pure .nil
  | cons a rest ih =>
      obtain ⟨here, others⟩ := List.forall_mem_cons.mp acceptable
      rw [List.mapM_cons]
      refine ensures_bind (item_never_fails here) fun i first => ?_
      exact ensures_bind (ih others) fun later all => ensures_pure (.cons first all)

theorem process_never_fails {body : String} {index type : Option String} {actions : List Bulk.Action}
    (parsed : parse body index type = .ok actions) :
    Ensures (process body index type) (fun answer => List.Forall₂ IsItemOf actions answer.items) fun _ => False := by
  rw [process_read parsed, runAll]
  exact ensures_bind (items_never_fail (parse_acceptable parsed)) fun items all => ensures_pure all

theorem process_unread {body : String} {index type : Option String} {e : Failure}
    (unread : parse body index type = .error e) : process body index type = throw e := by
  rw [process, unread]
  rfl

theorem accepted_iff_creatable {index type : Option String} {n : Nat} {line : List Char} {head : ActionHead}
    {i t : String} (read : (Json.Draft.ofChars? line).bind ActionHead.ofDraft? = some head)
    (indexed : (head.index <|> index) = some i) (typed : (head.type <|> type) = some t)
    (given : head.kind.needsId = true → (head.id.filter (· ≠ "")).isSome) {s : State} (reachable : Reachable s)
    (source : Json) :
    (∃ a, action index type n line = .ok a) ↔
      ∀ cause, ((createDocument i t source head.id).inMemory s).1 ≠ .error (.malformedInput cause) := by
  rw [← not_exists, create_malformed (reachable_sound reachable)]
  simp only [action_accepted read indexed typed]
  constructor
  · rintro ⟨a, _, admitted, _⟩ refused
    exact refused _ admitted
  · intro acceptable
    obtain ⟨r, admitted⟩ := not_forall_not.mp acceptable
    obtain rfl := relation_of_names (place_iff.mp admitted).2
    exact ⟨_, given, admitted, rfl⟩

/-- A body that is not read is malformed and leaves every storage alone; one that is read is answered from
every reachable state; and a line is refused for its id and its names just when the store would refuse them. -/
theorem bulk_is_all_or_nothing (body : String) (index type : Option String) :
    (∀ e, parse body index type = .error e → (∃ cause, e = .malformedInput cause) ∧
      ∀ before calls answer after, Passes (process body index type) before calls answer after ↔
        calls = [] ∧ answer = .error e ∧ after = before) ∧
    (∀ actions, parse body index type = .ok actions → ∀ s, Reachable s →
      ∃ answer after, (process body index type).inMemory s = (.ok answer, after) ∧ Reachable after ∧
        List.Forall₂ IsItemOf actions answer.items) ∧
    (∀ n line head i t, (Json.Draft.ofChars? line).bind ActionHead.ofDraft? = some head →
      (head.index <|> index) = some i → (head.type <|> type) = some t →
      (head.kind.needsId = true → (head.id.filter (· ≠ "")).isSome) → ∀ s, Reachable s → ∀ source,
      ((∃ a, action index type n line = .ok a) ↔
        ∀ cause, ((createDocument i t source head.id).inMemory s).1 ≠ .error (.malformedInput cause))) := by
  refine ⟨?_, ?_, ?_⟩
  · intro e unread
    refine ⟨parse_malformed body index type e unread, fun before calls answer after => ?_⟩
    rw [process_unread unread]
    exact passes_throw
  · intro actions parsed s reachable
    obtain ⟨kept, succeeded, failed⟩ := process_never_fails parsed s reachable
    generalize (process body index type).inMemory s = ran at kept succeeded failed ⊢
    obtain ⟨result, after⟩ := ran
    cases result with
    | error e => exact (failed e rfl).elim
    | ok answer => exact ⟨answer, after, rfl, kept, succeeded answer rfl⟩
  · intro n line head i t read indexed typed given s reachable source
    exact accepted_iff_creatable read indexed typed given reachable source

def creationAndUpdate : String :=
  "\x7b\"create\":\x7b\x7d\x7d\n1\n\x7b\"update\":\x7b\"_id\":\"7\"\x7d\x7d\n2"

theorem creation_and_update_run : ∃ answer after,
    (process creationAndUpdate (some "a") (some "b")).inMemory .fresh = (.ok answer, after) ∧ answer.items.length = 2 := by
  have two : (parse creationAndUpdate (some "a") (some "b")).toOption.map (·.length) = some 2 := by decide +kernel
  obtain ⟨actions, read, length⟩ := Option.map_eq_some_iff.mp two
  obtain ⟨_, runs, _⟩ := bulk_is_all_or_nothing creationAndUpdate (some "a") (some "b")
  obtain ⟨answer, after, ran, _, items⟩ := runs actions (accepted_of_option read) .fresh ⟨[], rfl⟩
  exact ⟨answer, after, ran, items.length_eq.symm.trans length⟩

end SearchStore.Bulk

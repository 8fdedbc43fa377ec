import SearchStore.Bulk.Process
import SearchStore.Proofs.Store.Asked
import SearchStore.Proofs.Store.Catalog
import SearchStore.Search.Hits

/-!
The options of a type that exists. A memory changes them for one request only, so whatever does not put
that request leaves them alone.
-/

set_option autoImplicit false

namespace SearchStore

def StorageRequest.Spares (r : Relation) (q : StorageRequest) : Prop := ∀ options, q ≠ .storeTypeOptions r.index r.type options

namespace Memory

variable {m : Memory} {r : Relation} {entry : TypeEntry}

theorem entry_inserted (m : Memory) (q : Relation) (id : Option String) (source : Json) :
    (m.insertDocument q id source).2.typeOf? r = m.typeOf? r := by
  cases id with
  | some id =>
      simp only [insertDocument]
      split <;> rfl
  | none => rfl

theorem entry_spared {q : StorageRequest} (spares : q.Spares r) (present : m.typeOf? r = some entry) :
    (m.serve q).2.typeOf? r = some entry := by
  cases q with
  | createCatalog | fetchIndex | listIndices | fetchType | listTypes | fetchDocument | selectDocuments => exact present
  | insertIndex name options =>
      rw [serve]
      split <;> exact present
  | insertType other options =>
      rw [serve_insert_type]
      cases found : m.typeOf? other with
      | some there => exact present
      | none =>
          have apart : r ≠ other := by
            rintro rfl
            rw [found] at present
            cases present
          exact (entry_added_other apart).trans present
  | storeTypeOptions index name options =>
      have apart : r ≠ ⟨index, name⟩ := by
        rintro rfl
        exact spares options rfl
      exact (entry_replaced_other apart).trans present
  | insertDocument other id source => exact (entry_inserted m other id source).trans present
  | replaceDocument other id source | removeDocument other id =>
      rw [serve]
      split <;> exact present

end Memory

namespace Store

variable {ε α β : Type} {r : Relation} {entry : TypeEntry}

def Spares (r : Relation) (op : Served ε α) : Prop := ∀ known, Dialogue.Puts (StorageRequest.Spares r) (op known)

variable {s : State}

theorem spared_entry {op : Served ε α} (spares : Spares r op) (present : s.memory.typeOf? r = some entry) :
    (((op s.known).run Memory.answer).run s.memory).2.typeOf? r = some entry :=
  Dialogue.kept_by_run Memory.answer (fun m => m.typeOf? r = some entry)
    (fun _ _ spares present => Memory.entry_spared spares present) (spares s.known) present

theorem plain_spares (q : StorageRequest) (plain : ¬ q.WritesType) : q.Spares r := by
  rintro options rfl
  exact plain trivial

theorem making_spares (index type options : String) : Makes (StorageRequest.Spares r) index type options where
  indexed := plain_spares _ id
  inserted _ _ _ := nofun
  fetched := plain_spares _ id

theorem replacing_spares {index type : String} (apart : r ≠ ⟨index, type⟩) (options : String) :
    (StorageRequest.storeTypeOptions index type options).Spares r := by
  rintro other same
  cases same
  exact apart rfl

theorem replace_options_spares {index type : String} (apart : r ≠ ⟨index, type⟩) (options : String) :
    Spares r (replaceTypeOptions index type options) := asks_replace_options (replacing_spares apart options)

theorem create_type_spares (index type options : String) : Spares r (createType index type options) :=
  asks_create_type (making_spares index type options)

theorem create_document_spares (index type : String) (source : Json) (id : Option String) :
    Spares r (createDocument index type source id) :=
  asks_create_document (making_spares index type "") fun _ => plain_spares _ fun writes => writes

theorem document_exists_spares (index type id : String) : Spares r (documentExists index type id) :=
  asks_document_exists (plain_spares _ fun writes => writes) fun _ => plain_spares _ fun writes => writes

theorem update_document_spares (index type : String) (source : Json) (id : String) :
    Spares r (updateDocument index type source id) :=
  asks_update_document (plain_spares _ fun writes => writes) fun _ => plain_spares _ fun writes => writes

theorem delete_document_spares (index type id : String) : Spares r (deleteDocument index type id) :=
  asks_delete_document (plain_spares _ fun writes => writes) fun _ => plain_spares _ fun writes => writes

def Operation.Replaces (r : Relation) (op : Operation) : Prop := ∃ options, op = .replaceTypeOptions r.index r.type options

theorem operation_spares (op : Operation) (other : ¬ op.Replaces r) : Spares r op.perform := by
  refine asks_perform op plain_spares (fun _ _ _ _ => nofun) ?_
  rintro index type options rfl
  refine replacing_spares ?_ options
  rintro rfl
  exact other ⟨options, rfl⟩

theorem execute_spares (a : Bulk.Action) : Spares r (Bulk.execute a) := by
  rw [Bulk.execute]
  cases a.kind with
  | index =>
      refine asks_bind (document_exists_spares _ _ _) fun there => ?_
      split
      · exact asks_bind (update_document_spares _ _ _ _) fun _ => asks_pure _
      · exact asks_bind (create_document_spares _ _ _ _) fun _ => asks_pure _
  | create => exact asks_bind (create_document_spares _ _ _ _) fun _ => asks_pure _
  | update => exact asks_bind (update_document_spares _ _ _ _) fun _ => asks_pure _
  | delete => exact asks_bind (delete_document_spares _ _ _) fun _ => asks_pure _

theorem item_spares (a : Bulk.Action) : Spares r (Bulk.item a) := by
  refine asks_try (execute_spares a) fun e => ?_
  split
  · exact asks_pure _
  · exact asks_throw e

theorem bulk_spares (body : String) (index type : Option String) : Spares r (Bulk.process body index type) := by
  refine asks_bind (asks_lift _) fun actions => ?_
  exact asks_bind (asks_each item_spares actions) fun items => asks_pure _

theorem hits_spare (request : SearchRequest) (index type : String) : Spares r (Search.hitsOf request index type) := by
  have compiled : Spares r (Search.predicateFor request index type) := by
    rw [Search.predicateFor]
    cases request.query with
    | none => exact asks_pure _
    | some query => exact asks_bind (asks_request (plain_spares _ id)) fun entry => asks_lift _
  exact asks_bind compiled fun predicate => asks_bind (asks_select (plain_spares _ id) fun _ => plain_spares _ id) fun d => asks_pure _

theorem search_spares (indexPattern typePattern : String) (request : SearchRequest) :
    Spares r (Search.run indexPattern typePattern request) := by
  have inside (index : String) : Spares r (Search.hitsIn request typePattern index) :=
    asks_bind (asks_request (plain_spares _ id)) fun types => asks_each (hits_spare request index) types
  refine asks_bind (asks_request (plain_spares _ id)) fun indices => asks_bind (asks_each inside indices) fun hits => ?_
  by_cases nothing : hits.flatten.isEmpty = true
  · rw [if_pos nothing]
    exact asks_bind (asks_throw _) fun _ => asks_pure _
  · rw [if_neg nothing]
    exact asks_pure _

end Store

end SearchStore

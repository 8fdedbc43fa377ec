import SearchStore.Proofs.Exchanges
import SearchStore.Proofs.Store.Operation

/-!
Which requests a computation may put to the storage, whatever it is replied. What all of those leave in
place the computation leaves in place, and every request that passes is one of them. An operation puts
requests that write a type of the catalog only when it is one that makes the type or replaces its options.
-/

set_option autoImplicit false

namespace SearchStore

namespace Dialogue

variable {I : Interface} {α β σ : Type} {may : I.Request → Prop}

def Puts (may : I.Request → Prop) : Dialogue I α → Prop
  | .done _ => True
  | .ask r next => may r ∧ ∀ reply, Puts may (next reply)

theorem puts_bind {d : Dialogue I α} {f : α → Dialogue I β} (first : d.Puts may) (later : ∀ a, (f a).Puts may) :
    (d.bind f).Puts may := by
  induction d with
  | done a => exact later a
  | ask r next ih => exact ⟨first.1, fun reply => ih reply (first.2 reply)⟩

theorem kept_by_run (answer : (r : I.Request) → StateM σ (I.Reply r)) (holds : σ → Prop)
    (kept : ∀ r s, may r → holds s → holds ((answer r).run s).2) {d : Dialogue I α} (puts : d.Puts may) {s : σ}
    (start : holds s) : holds ((d.run answer).run s).2 := by
  induction d generalizing s with
  | done a => exact start
  | ask r next ih => exact ih _ (puts.2 _) (kept r s puts.1 start)

theorem puts_passed {d : Dialogue I α} (puts : d.Puts may) {calls : List (Exchange I)} {a : α} (passed : Passes d calls a) :
    ∀ e ∈ calls, may e.request := by
  induction passed with
  | done a => simp
  | ask r next reply later a rest ih => exact List.forall_mem_cons.mpr ⟨puts.1, ih (puts.2 reply)⟩

end Dialogue

def StorageRequest.WritesType : StorageRequest → Prop
  | .insertType _ _ | .storeTypeOptions _ _ _ => True
  | _ => False

namespace Store

abbrev Served (ε : Type) := ExceptT ε (StateT KnownRelations (Dialogue Storage))

variable {ε α β : Type} {may : StorageRequest → Prop}

def Asks (may : StorageRequest → Prop) (op : Served ε α) : Prop := ∀ known, Dialogue.Puts (I := Storage) may (op known)

theorem asks_pure (a : α) : Asks may (pure a : Served ε α) := fun _ => trivial

theorem asks_throw (e : ε) : Asks may (throw e : Served ε α) := fun _ => trivial

theorem asks_lift (result : Except ε α) : Asks may (liftM result : Served ε α) := by
  cases result <;> exact fun _ => trivial

theorem asks_request {q : StorageRequest} (allowed : may q) : Asks may (StoreM.ask q) :=
  fun _ => ⟨allowed, fun _ => trivial⟩

theorem asks_bind {op : Served ε α} {f : α → Served ε β} (first : Asks may op) (later : ∀ a, Asks may (f a)) :
    Asks may (op >>= f) := by
  refine fun known => Dialogue.puts_bind (first known) fun ⟨result, after⟩ => ?_
  cases result with
  | ok a => exact later a after
  | error e => trivial

theorem asks_given {result : Except ε α} {f : α → Served ε β} (later : ∀ a, result = .ok a → Asks may (f a)) :
    Asks may (liftM result >>= f) := by
  cases result with
  | error e => exact asks_throw e
  | ok a => exact later a rfl

theorem asks_try {op : Served ε α} {handler : ε → Served ε α} (first : Asks may op) (later : ∀ e, Asks may (handler e)) :
    Asks may (tryCatch op handler) := by
  refine fun known => Dialogue.puts_bind (first known) fun ⟨result, after⟩ => ?_
  cases result with
  | ok a => trivial
  | error e => exact later e after

theorem asks_adapt {ε' : Type} {op : Served ε α} (f : ε → ε') (asks : Asks may op) :
    Asks may (ExceptT.adapt f op : Served ε' α) :=
  fun known => Dialogue.puts_bind (asks known) fun _ => trivial

theorem asks_each {f : α → Served ε β} (each : ∀ a, Asks may (f a)) (items : List α) : Asks may (items.mapM f) := by
  induction items with
  | nil =>
      rw [List.mapM_nil]
      exact asks_pure []
  | cons item rest ih =>
      rw [List.mapM_cons]
      exact asks_bind (each item) fun b => asks_bind ih fun later => asks_pure (b :: later)

structure Makes (may : StorageRequest → Prop) (index type options : String) : Prop where
  indexed : may (.insertIndex index "")
  inserted : ∀ r, Relation.ofNames index type = .ok r → may (.insertType r options)
  fetched : may (.fetchType index type)

section

variable {index type options id : String} {source : Json} {predicate : Predicate}

theorem asks_look_up (fetches : may (.fetchType index type)) : Asks may (KnownRelations.lookUp index type) := by
  have read : Asks may (getThe KnownRelations : StoreM KnownRelations) := fun _ => trivial
  have note (r : Relation) : Asks may (KnownRelations.note r) := fun _ => trivial
  refine asks_bind read fun known => ?_
  cases known.find? index type with
  | some r => exact asks_pure (some r)
  | none =>
      refine asks_bind (asks_lift _) fun r => asks_bind (asks_request fetches) fun there => ?_
      cases there with
      | some entry => exact asks_bind (note r) fun r => asks_pure (some r)
      | none => exact asks_pure none

theorem asks_establish (makes : Makes may index type options) : Asks may (KnownRelations.establish index type options) := by
  have note (r : Relation) : Asks may (KnownRelations.note r) := fun _ => trivial
  refine asks_given fun r valid => asks_bind (asks_request makes.indexed) fun _ => ?_
  refine asks_bind (asks_request (makes.inserted r valid)) fun inserted => ?_
  cases inserted with
  | some entry => exact asks_bind (note r) fun r => asks_pure _
  | none =>
      refine asks_bind (asks_request makes.fetched) fun there => ?_
      cases there with
      | some entry => exact asks_bind (note r) fun r => asks_pure _
      | none => exact asks_throw _

theorem asks_obtain (makes : Makes may index type "") : Asks may (KnownRelations.obtain index type) := by
  refine asks_bind (asks_look_up makes.fetched) fun known => ?_
  cases known with
  | some r => exact asks_pure r
  | none => exact asks_bind (asks_establish makes) fun established => asks_pure established.1

theorem asks_relation (fetches : may (.fetchType index type)) : Asks may (relation? index type) := by
  rw [relation?]
  cases Relation.ofNames index type with
  | ok r => exact asks_look_up fetches
  | error e => exact asks_pure none

theorem asks_create_index {name : String} (indexes : may (.insertIndex name options)) : Asks may (createIndex name options) := by
  refine asks_bind (asks_lift _) fun _ => asks_bind (asks_request indexes) fun inserted => ?_
  cases inserted with
  | some entry => exact asks_pure entry
  | none => exact asks_throw _

theorem asks_create_type (makes : Makes may index type options) : Asks may (createType index type options) := by
  refine asks_bind (asks_establish makes) fun established => ?_
  cases established.2 with
  | created entry => exact asks_pure entry
  | existing entry => exact asks_throw _

theorem asks_replace_options (replaces : may (.storeTypeOptions index type options)) :
    Asks may (replaceTypeOptions index type options) := by
  refine asks_bind (asks_request replaces) fun replaced => ?_
  cases replaced with
  | some entry => exact asks_pure entry
  | none => exact asks_throw _

theorem asks_create_document {id : Option String} (makes : Makes may index type "")
    (inserts : ∀ r, may (.insertDocument r (id.filter (· ≠ "")) source)) : Asks may (createDocument index type source id) := by
  rw [createDocument]
  generalize id.filter (· ≠ "") = id at *
  cases id with
  | none =>
      refine asks_bind (asks_obtain makes) fun r => asks_bind (asks_request (inserts r)) fun inserted => ?_
      cases inserted with
      | some d => exact asks_pure d
      | none => exact asks_throw _
  | some id =>
      refine asks_bind (asks_lift _) fun _ => asks_bind (asks_obtain makes) fun r => ?_
      refine asks_bind (asks_request (inserts r)) fun inserted => ?_
      cases inserted with
      | some d => exact asks_pure d
      | none => exact asks_throw _

theorem asks_get_document (fetches : may (.fetchType index type)) (reads : ∀ r, may (.fetchDocument r id)) :
    Asks may (getDocument index type id) := by
  rw [getDocument]
  split
  · exact asks_pure none
  · refine asks_bind (asks_relation fetches) fun known => ?_
    cases known with
    | some r => exact asks_request (reads r)
    | none => exact asks_pure none

theorem asks_document_exists (fetches : may (.fetchType index type)) (reads : ∀ r, may (.fetchDocument r id)) :
    Asks may (documentExists index type id) :=
  asks_bind (asks_get_document fetches reads) fun d => asks_pure d.isSome

theorem asks_update_document (fetches : may (.fetchType index type)) (replaces : ∀ r, may (.replaceDocument r id source)) :
    Asks may (updateDocument index type source id) := by
  rw [updateDocument]
  split
  · exact asks_throw _
  · refine asks_bind (asks_relation fetches) fun known => ?_
    cases known with
    | none => exact asks_throw _
    | some r =>
        refine asks_bind (asks_request (replaces r)) fun replaced => ?_
        cases replaced with
        | some d => exact asks_pure d
        | none => exact asks_throw _

theorem asks_delete_document (fetches : may (.fetchType index type)) (removes : ∀ r, may (.removeDocument r id)) :
    Asks may (deleteDocument index type id) := by
  rw [deleteDocument]
  split
  · exact asks_pure none
  · refine asks_bind (asks_relation fetches) fun known => ?_
    cases known with
    | some r => exact asks_request (removes r)
    | none => exact asks_pure none

theorem asks_select (fetches : may (.fetchType index type)) (selects : ∀ r, may (.selectDocuments r predicate)) :
    Asks may (select index type predicate) := by
  refine asks_bind (asks_relation fetches) fun known => ?_
  cases known with
  | some r => exact asks_request (selects r)
  | none => exact asks_pure []

end

namespace Operation

def created? : Operation → Option Relation
  | .createType index type _ | .createDocument index type _ _ => (Relation.ofNames index type).toOption
  | _ => none

theorem makes_created {op : Operation} {index type : String} (same : op.created? = (Relation.ofNames index type).toOption)
    (plain : ∀ q : StorageRequest, ¬ q.WritesType → may q) (makes : ∀ r ∈ op.created?, ∀ options, may (.insertType r options))
    (options : String) : Makes may index type options where
  indexed := plain _ id
  inserted r valid := makes r (by rw [same, valid]; rfl) options
  fetched := plain _ id

end Operation

open Operation

theorem asks_perform (op : Operation) (plain : ∀ q : StorageRequest, ¬ q.WritesType → may q)
    (makes : ∀ r ∈ op.created?, ∀ options, may (.insertType r options))
    (replaces : ∀ index type options, op = .replaceTypeOptions index type options → may (.storeTypeOptions index type options)) :
    Asks may op.perform := by
  cases op with
  | createCatalog | getIndex | findIndices | getType | findTypes =>
      exact asks_bind (asks_request (plain _ id)) fun _ => asks_pure _
  | createIndex => exact asks_bind (asks_create_index (plain _ id)) fun _ => asks_pure _
  | createType _ _ options => exact asks_bind (asks_create_type (makes_created rfl plain makes options)) fun _ => asks_pure _
  | replaceTypeOptions index type options =>
      exact asks_bind (asks_replace_options (replaces index type options rfl)) fun _ => asks_pure _
  | createDocument =>
      exact asks_bind (asks_create_document (makes_created rfl plain makes "") fun _ => plain _ id) fun _ => asks_pure _
  | getDocument => exact asks_bind (asks_get_document (plain _ id) fun _ => plain _ id) fun _ => asks_pure _
  | documentExists => exact asks_bind (asks_document_exists (plain _ id) fun _ => plain _ id) fun _ => asks_pure _
  | updateDocument => exact asks_bind (asks_update_document (plain _ id) fun _ => plain _ id) fun _ => asks_pure _
  | deleteDocument => exact asks_bind (asks_delete_document (plain _ id) fun _ => plain _ id) fun _ => asks_pure _
  | select => exact asks_bind (asks_select (plain _ id) fun _ => plain _ id) fun _ => asks_pure _

end Store

end SearchStore

import SearchStore.Proofs.Store.Writing

/-!
Operations on another document. While no other type has the table of a pair, an operation on a document
that is another one by its pair or by its id leaves the document of the pair as it is, and is answered as
if that document said anything else.
-/

set_option autoImplicit false

namespace SearchStore.Store

open Store.State StoreM

variable {s s' : State} {q r : Relation} {id key : String} {source : Json} {d e : Document} {about : Option Relation}
  {deed : Option (Relation × Deed)}

inductive Operation.Of (q : Relation) (key : String) : Operation → Prop where
  | create (source : Json) : Of q key (.createDocument q.index q.type source (some key))
  | get : Of q key (.getDocument q.index q.type key)
  | look : Of q key (.documentExists q.index q.type key)
  | update (source : Json) : Of q key (.updateDocument q.index q.type source key)
  | delete : Of q key (.deleteDocument q.index q.type key)

def Operation.creates : Operation → Bool
  | .createDocument _ _ _ _ => true
  | _ => false

theorem effect_stays_typed (effect : Effect s about s' deed) (typed : (s.memory.typeOf? q).isSome) :
    (s'.memory.typeOf? q).isSome := by
  have provided (p : Relation) (options : String) : ((s.provide p options).memory.typeOf? q).isSome := by
    rw [provide_entry]
    split
    · rfl
    · exact typed
  cases effect with
  | nothing s' same =>
      rw [same]
      exact typed
  | index name options => exact typed
  | type p options named => exact provided p options
  | options p options =>
      rw [Memory.entry_replaced, Option.isSome_map]
      exact typed
  | refusal p named => exact provided p ""
  | deed p d named fits => exact provided p ""

theorem effect_spares (effect : Effect s about s' deed) (found : s.find? r id = some d)
    (spared : ∀ p e, deed = some (p, e) → p.table = r.table → e.id ≠ id) : s'.find? r id = some d := by
  have typed := found_entry found
  have held : (s.memory.table r).find? id = some d := by rwa [← find_typed typed]
  rw [find_typed (effect_stays_typed effect typed), effect_table effect]
  cases done : deed with
  | none => exact held
  | some done' =>
      obtain ⟨p, e⟩ := done'
      by_cases shared : r.table = p.table
      · rw [tableAfter, if_pos shared, Deed.find_other (Ne.symm (spared p e done shared.symm)),
          ← Memory.table_shared _ shared, held]
      · rw [tableAfter, if_neg shared, held]

theorem creation_spares {generated : Bool} (fits : (Deed.created key source generated).Fits (s.memory.table q))
    (shared : q.table = r.table) (found : s.find? r id = some d) : key ≠ id := by
  rintro rfl
  have held : (s.memory.table q).find? key = some d := by
    rwa [Memory.table_shared _ shared, ← find_typed (found_entry found)]
  cases fits with
  | supplied _ _ given accepted absent =>
      rw [absent] at held
      cases held
  | generated source =>
      rw [Deed.number_absent] at held
      cases held

theorem rewrite_spares (unshared : s.Unshared r) (different : (q, key) ≠ (r, id)) (found : s.find? q key = some e)
    (shared : q.table = r.table) : key ≠ id := by
  rintro rfl
  have same : q = r := unshared q (found_entry found) shared
  exact different (by rw [same])

theorem deed_answered {op : Operation} {result : Result} {done : Relation × Deed} (did : op.deed? result = some done) :
    ∃ outcome, result = .ok outcome := by
  cases result with
  | ok outcome => exact ⟨outcome, rfl⟩
  | error failure => cases op <;> cases did

theorem document_spared (sound : s.Sound) (unshared : s.Unshared r) {op : Operation} (of : op.Of q key)
    (different : (q, key) ≠ (r, id)) (found : s.find? r id = some d) : (op.step s).2.find? r id = some d := by
  have effect := step_effect sound op
  refine effect_spares effect found fun p e done shared => ?_
  rw [done] at effect
  have fits := effect_fits effect
  obtain ⟨outcome, answered⟩ := deed_answered done
  rw [answered] at done
  cases of with
  | get => cases done
  | look => cases done
  | create source =>
      obtain ⟨made, -, rfl⟩ := returned (Prod.ext answered rfl)
      cases done
      exact creation_spares fits shared found
  | update source =>
      obtain ⟨made, updated, rfl⟩ := returned (Prod.ext answered rfl)
      cases done
      obtain ⟨-, e, there, -⟩ := update_finds sound (congrArg Prod.fst updated)
      exact rewrite_spares unshared different there shared
  | delete =>
      obtain ⟨gone, deleted, rfl⟩ := returned (Prod.ext answered rfl)
      cases gone with
      | none => cases done
      | some e =>
          cases done
          exact rewrite_spares unshared different (deletion_finds sound (congrArg Prod.fst deleted)).2 shared

structure Besides (r : Relation) (id : String) (s s' : State) : Prop where
  typed : ∀ q, s'.memory.typeOf? q = s.memory.typeOf? q
  found : ∀ q key, (q.table, key) ≠ (r.table, id) → (s'.memory.table q).find? key = (s.memory.table q).find? key

theorem besides_finds (besides : Besides r id s s') (unshared : s.Unshared r) (different : (q, key) ≠ (r, id)) :
    s'.find? q key = s.find? q key := by
  cases present : s.memory.typeOf? q with
  | none => rw [State.find?, State.find?, rows, rows, besides.typed, present]
  | some entry =>
      have typed : (s.memory.typeOf? q).isSome := Option.isSome_of_eq_some present
      have typed' : (s'.memory.typeOf? q).isSome := by rwa [besides.typed]
      rw [find_typed typed, find_typed typed']
      refine besides.found q key fun same => different ?_
      obtain ⟨shared, rfl⟩ := Prod.mk.inj same
      rw [unshared q typed shared]

-- Whether an id is taken in a table that a second pair would share tells only that a document is there.
theorem besides_taken (besides : Besides r id s s') (different : (q, key) ≠ (r, id))
    (there : q ≠ r → q.table = r.table → (s'.memory.table r).hasId id = (s.memory.table r).hasId id) :
    (s'.memory.table q).hasId key = (s.memory.table q).hasId key := by
  by_cases same : (q.table, key) = (r.table, id)
  · obtain ⟨shared, rfl⟩ := Prod.mk.inj same
    have other : q ≠ r := fun here => different (by rw [here])
    rw [Memory.table_shared _ shared, Memory.table_shared _ shared]
    exact there other shared
  · rw [Table.hasId, besides.found q key same]
    rfl

theorem operation_alike (sound : s.Sound) (sound' : s'.Sound) {op : Operation} (of : op.Of q key) (filled : key ≠ "")
    (same : s'.find? q key = s.find? q key)
    (taken : op.creates = true → (s'.memory.table q).hasId key = (s.memory.table q).hasId key) :
    (op.step s').1 = (op.step s).1 := by
  rw [Operation.step, Operation.step]
  cases of with
  | get =>
      rw [Operation.perform, return_in_memory, return_in_memory, get_document_in_memory sound, get_document_in_memory sound',
        if_neg filled, if_neg filled, same]
  | look =>
      rw [Operation.perform, return_in_memory, return_in_memory, document_exists_in_memory sound,
        document_exists_in_memory sound', if_neg filled, if_neg filled, same]
  | delete =>
      rw [Operation.perform, return_in_memory, return_in_memory, delete_document_in_memory sound,
        delete_document_in_memory sound', if_neg filled, if_neg filled, same]
  | update source =>
      rw [Operation.perform, return_in_memory, return_in_memory, update_document_in_memory sound,
        update_document_in_memory sound', if_neg filled, if_neg filled, same]
      cases s.find? q key <;> rfl
  | create source =>
      rw [Operation.perform, return_in_memory, return_in_memory, supplied_creation sound _ _ _ filled,
        supplied_creation sound' _ _ _ filled]
      cases accepted : place q.index q.type (some key) with
      | error e => rfl
      | ok p =>
          obtain rfl := relation_of_names (place_iff.mp accepted).2
          simp only [taken rfl]

-- What is done about a document spares every other one, and the answer depends on none, but that a document
-- which is created under an id has to find the id free in its table.
structure Bystands {β : Type} (q : Relation) (key : String) (creates : Bool) (run : State → β × State) : Prop where
  spares : ∀ {s : State} {r : Relation} {id : String} {d : Document}, s.Sound → s.Unshared r → (q, key) ≠ (r, id) →
    s.find? r id = some d → (run s).2.find? r id = some d
  alike : ∀ {s s' : State}, s.Sound → s'.Sound → s'.find? q key = s.find? q key →
    (creates = true → (s'.memory.table q).hasId key = (s.memory.table q).hasId key) → (run s').1 = (run s).1

theorem bystands_map {β γ : Type} {creates : Bool} {run : State → β × State} {other : State → γ × State} (f : β → γ)
    (bystands : Bystands q key creates run) (same : ∀ s, other s = (f (run s).1, (run s).2)) :
    Bystands q key creates other where
  spares sound unshared different found := by
    rw [same]
    exact bystands.spares sound unshared different found
  alike sound sound' found taken := by
    rw [same, same]
    exact congrArg f (bystands.alike sound sound' found taken)

theorem operation_bystands {op : Operation} (of : op.Of q key) (filled : key ≠ "") : Bystands q key op.creates op.step where
  spares sound unshared different found := document_spared sound unshared of different found
  alike sound sound' same taken := operation_alike sound sound' of filled same taken

theorem mapped_injective {ε α β : Type} {f : α → β} (injective : Function.Injective f) {a b : Except ε α}
    (same : a.map f = b.map f) : a = b := by
  cases a with
  | error e => cases b with
    | error other => exact congrArg Except.error (Except.error.inj same)
    | ok b => cases same
  | ok a => cases b with
    | error e => cases same
    | ok b => exact congrArg Except.ok (injective (Except.ok.inj same))

theorem bystands_unwrapped {α : Type} (op : Operation) {creates : Bool} {run : StoreM α} {wrap : α → Outcome}
    (performs : op.perform = do return wrap (← run)) (injective : Function.Injective wrap)
    (bystands : Bystands q key creates op.step) : Bystands q key creates run.inMemory where
  spares {s} _ _ _ sound unshared different found := by
    have kept := bystands.spares sound unshared different found
    rwa [Operation.step, performs, return_in_memory] at kept
  alike {s s'} sound sound' same taken := by
    have alike := bystands.alike sound sound' same taken
    rw [Operation.step, Operation.step, performs, return_in_memory, return_in_memory] at alike
    exact mapped_injective injective alike

theorem indexing_bystands (filled : key ≠ "") (found : Option Document) :
    Bystands q key found.isNone (indexing q.index q.type source (some key) found).inMemory := by
  cases found with
  | none =>
      exact bystands_unwrapped (.createDocument q.index q.type source (some key)) rfl (fun _ _ => Outcome.document.inj)
        (operation_bystands (.create source) filled)
  | some e =>
      exact bystands_unwrapped (.updateDocument q.index q.type source key) rfl (fun _ _ => Outcome.document.inj)
        (operation_bystands (.update source) filled)

theorem index_bystands (filled : key ≠ "") : Bystands q key true (indexDocument q.index q.type source (some key)).inMemory where
  spares {s r id d} sound unshared different found := by
    have held : (s.touch q).find? r id = some d := by rwa [find_touched]
    rw [index_under sound _ _ _ filled]
    exact (indexing_bystands filled _).spares (sound_touch sound q) (touch_unshared unshared q) different held
  alike {s s'} sound sound' same taken := by
    rw [index_under sound _ _ _ filled, index_under sound' _ _ _ filled, same]
    refine (indexing_bystands filled _).alike (sound_touch sound q) (sound_touch sound' q) ?_ ?_
    · rw [find_touched, find_touched, same]
    · rw [touch_memory, touch_memory]
      exact fun _ => taken rfl

theorem step_unshared (sound : s.Sound) {op : Operation} (of : op.Of r key) (unshared : s.Unshared r) :
    (op.step s).2.Unshared r := by
  intro p typed shared
  rcases effect_typed (step_effect sound op) typed with before | named
  · exact unshared p before shared
  · have about : op.relation? = (Relation.ofNames r.index r.type).toOption := by cases of <;> rfl
    rw [about] at named
    cases accepted : Relation.ofNames r.index r.type with
    | error e =>
        rw [accepted] at named
        cases named
    | ok q =>
        rw [accepted] at named
        cases named
        exact relation_of_names accepted

theorem index_unshared (sound : s.Sound) (unshared : s.Unshared r) (filled : key ≠ "") :
    ((indexDocument r.index r.type source (some key)).inMemory s).2.Unshared r := by
  have touched := touch_unshared unshared r
  rw [index_under sound _ _ _ filled, indexing]
  have stepped {op : Operation} (of : op.Of r key) := step_unshared (sound_touch sound r) of touched
  split
  · have kept := stepped (.update source)
    rwa [Operation.step, Operation.perform, return_in_memory] at kept
  · have kept := stepped (.create source)
    rwa [Operation.step, Operation.perform, return_in_memory] at kept

end SearchStore.Store

import SearchStore.Proofs.Sql.Quoting
import SearchStore.Proofs.Sql.Requests
import SearchStore.Proofs.Store.Consistency

/-!
What the store does on a server follows what it does in memory: the same result, the same relations
noted, and a server that keeps what the memory does. One rule for each way operations are put together,
and one lemma for each operation.
-/

set_option autoImplicit false

namespace SearchStore.Sql

open Server Store Store.State StoreM

variable {α β : Type} {used : Relation → Prop} {s : State} {v v' v'' : Server} {known known' known'' : KnownRelations}
  {habits : Habits} {r : Relation} {same : α → α → Prop} {alike : β → β → Prop}

inductive SameResult (same : α → α → Prop) : Except Failure α → Except Failure α → Prop where
  | ok {a b : α} (values : same a b) : SameResult same (.ok a) (.ok b)
  | error (e : Failure) : SameResult same (.error e) (.error e)

def Follows (habits : Habits) (used : Relation → Prop) (same : α → α → Prop) (op : StoreM α) (s : State) : Prop :=
  ∀ v, Mirrored used s.memory v → ∃ result v',
    (op.runWith (Server.serve habits) s.known).run v = ((result, (op.inMemory s).2.known), v') ∧
      SameResult same (op.inMemory s).1 result ∧ Mirrored used (op.inMemory s).2.memory v'

theorem follows_pure {a : α} (refl : same a a) : Follows habits used same (pure a) s :=
  fun v mirrored => ⟨.ok a, v, rfl, .ok refl, mirrored⟩

theorem follows_throw (e : Failure) : Follows habits used same (throw e) s :=
  fun v mirrored => ⟨.error e, v, rfl, .error e, mirrored⟩

theorem follows_lift (result : Except Failure α) : Follows habits used Eq (liftM result) s := by
  cases result with
  | ok a => exact follows_pure rfl
  | error e => exact follows_throw e

theorem ran_ask (r : StorageRequest) (known : KnownRelations) (v : Server) : ((ask r).runWith (Server.serve habits) known).run v =
    ((((Server.serve habits r).run v).1, known), ((Server.serve habits r).run v).2) := rfl

def Goes (habits : Habits) (op : StoreM α) (known : KnownRelations) (v : Server) (result : Except Failure α)
    (known' : KnownRelations) (v' : Server) : Prop :=
  (op.runWith (Server.serve habits) known).run v = ((result, known'), v')

theorem goes_pure (a : α) : Goes habits (pure a) known v (.ok a) known v := rfl

theorem goes_bind {op : StoreM α} {f : α → StoreM β} {a : α} {result : Except Failure β}
    (first : Goes habits op known v (.ok a) known' v') (rest : Goes habits (f a) known' v' result known'' v'') :
    Goes habits (op >>= f) known v result known'' v'' := (then_ran _ first).trans rest

theorem goes_given {given : Except Failure α} {f : α → StoreM β} {a : α} {result : Except Failure β} (here : given = .ok a)
    (rest : Goes habits (f a) known v result known' v') : Goes habits (liftM given >>= f) known v result known' v' := by
  subst here
  exact goes_bind (goes_pure a) rest

theorem goes_get : Goes habits (getThe KnownRelations) known v (.ok known) known v := rfl

theorem goes_failed {op : StoreM α} {f : α → StoreM β} {e : Failure} (first : Goes habits op known v (.error e) known' v') :
    Goes habits (op >>= f) known v (.error e) known' v' := (then_ran _ first).trans rfl

theorem goes_ask {q : StorageRequest} {reply : Except Failure q.Answer}
    (served : (Server.serve habits q).run v = (reply, v')) : Goes habits (ask q) known v reply known v' := by
  rw [Goes, ran_ask, served]

theorem goes_note (r : Relation) : Goes habits (KnownRelations.note r) known v (.ok r) (known.insert r) v := by
  have noted : Goes habits (KnownRelations.note r) known v (.ok (((known.insert r).find? r.index r.type).getD r))
      (known.insert r) v := rfl
  rwa [KnownRelations.insert_finds, Option.getD_some] at noted

theorem follows_ask {r : StorageRequest} (agrees : ∀ v, Mirrored used s.memory v → Agrees habits used s.memory v r) :
    Follows habits used (SameAnswer r) (ask r) s := by
  intro v mirrored
  obtain ⟨a, v', ran, alike, after⟩ := agrees v mirrored
  refine ⟨.ok a, v', ?_, .ok alike, after⟩
  rw [ran_ask, ran]
  rfl

theorem follows_get : Follows habits used Eq (getThe KnownRelations) s :=
  fun v mirrored => ⟨.ok s.known, v, rfl, .ok rfl, mirrored⟩

theorem follows_note (r : Relation) : Follows habits used Eq (KnownRelations.note r) s :=
  fun v mirrored => ⟨_, v, rfl, .ok rfl, mirrored⟩

theorem follows_bind {op : StoreM α} {f : α → StoreM β} (first : Follows habits used Eq op s)
    (later : ∀ a, (op.inMemory s).1 = .ok a → Follows habits used alike (f a) (op.inMemory s).2) :
    Follows habits used alike (op >>= f) s := by
  intro v mirrored
  obtain ⟨result, v', ran, equal, after⟩ := first v mirrored
  have both := bind_in_memory op f s
  generalize op.inMemory s = outcome at ran equal after both later
  obtain ⟨answer, state⟩ := outcome
  cases equal with
  | error e =>
      refine ⟨.error e, v', ?_, ?_, ?_⟩ <;> rw [both]
      · exact goes_failed ran
      · exact .error e
      · exact after
  | ok equal =>
      subst equal
      obtain ⟨last, v'', ranToo, values, mirroredToo⟩ := later _ rfl v' after
      refine ⟨last, v'', ?_, ?_, ?_⟩ <;> rw [both]
      · exact goes_bind ran ranToo
      · exact values
      · exact mirroredToo

theorem follows_given {result : Except Failure α} {f : α → StoreM β}
    (later : ∀ a, result = .ok a → Follows habits used alike (f a) s) : Follows habits used alike (liftM result >>= f) s := by
  refine follows_bind (follows_lift result) fun a given => ?_
  rw [lift_in_memory] at given ⊢
  exact later a given

theorem follows_look_up (index type : String) : Follows habits used Eq (KnownRelations.lookUp index type) s := by
  refine follows_bind follows_get fun known _ => ?_
  cases known.find? index type with
  | some r => exact follows_pure rfl
  | none =>
      refine follows_given fun r _ => ?_
      refine follows_bind (follows_ask fun v mirrored => fetch_type_agrees mirrored index type) fun entry _ => ?_
      cases entry with
      | some entry => exact follows_bind (follows_note r) fun _ _ => follows_pure rfl
      | none => exact follows_pure rfl

theorem length_bytes (s : String) : s.length ≤ s.utf8ByteSize := by
  rw [← String.utf8Len_toList, ← String.length_toList]
  induction s.toList with
  | nil => exact Nat.le_refl 0
  | cons c rest ih =>
      rw [String.utf8Len_cons, List.length_cons]
      exact Nat.add_le_add ih c.utf8Size_pos

theorem names_fit {index type : String} (valid : Relation.ofNames index type = .ok r) :
    index.length ≤ longestName ∧ type.length ≤ longestName := by
  have fits := (valid_parts (valid_pair valid)).2.2
  obtain rfl := relation_of_names valid
  have indexed := length_bytes index
  have typed := length_bytes type
  rw [Relation.sequence, Relation.table, String.utf8ByteSize_append, String.utf8ByteSize_append, String.utf8ByteSize_append] at fits
  rw [longestName]
  dsimp only at fits
  omega

theorem follows_establish (separate : Separate used) {index type : String} (mine : ∀ r, Relation.ofNames index type = .ok r → used r)
    (options : String) : Follows habits used Eq (KnownRelations.establish index type options) s := by
  refine follows_given fun r valid => ?_
  obtain ⟨shortIndex, shortType⟩ := names_fit valid
  refine follows_bind (follows_ask fun v mirrored => insert_index_agrees separate mirrored index "" shortIndex) fun inserted _ => ?_
  obtain ⟨_, indexed⟩ := ask_insert_missing_index index s
  rw [indexed]
  obtain rfl := relation_of_names valid
  have there : ((s.memory.withIndex index).index? index).isSome := by
    rw [with_index_index, if_pos rfl]
    rfl
  refine follows_bind (follows_ask fun v mirrored =>
    insert_type_agrees separate mirrored (mine _ valid) options shortType shortIndex there) fun created _ => ?_
  cases created with
  | some entry => exact follows_bind (follows_note _) fun _ _ => follows_pure rfl
  | none =>
      refine follows_bind (follows_ask fun v mirrored => fetch_type_agrees mirrored index type) fun entry _ => ?_
      cases entry with
      | some entry => exact follows_bind (follows_note _) fun _ _ => follows_pure rfl
      | none => exact follows_throw _

theorem follows_obtain (separate : Separate used) {index type : String} (mine : ∀ r, Relation.ofNames index type = .ok r → used r) :
    Follows habits used Eq (KnownRelations.obtain index type) s := by
  refine follows_bind (follows_look_up index type) fun found _ => ?_
  cases found with
  | some r => exact follows_pure rfl
  | none => exact follows_bind (follows_establish separate mine "") fun _ _ => follows_pure rfl

theorem follows_relation (index type : String) : Follows habits used Eq (Store.relation? index type) s := by
  rw [Store.relation?]
  cases Relation.ofNames index type with
  | ok r => exact follows_look_up index type
  | error e => exact follows_pure rfl

theorem follows_return {op : StoreM α} {f : α → β} (follows : Follows habits used same op s)
    (keeps : ∀ a b, same a b → alike (f a) (f b)) : Follows habits used alike (do return f (← op)) s := by
  intro v mirrored
  obtain ⟨result, v', ran, equal, after⟩ := follows v mirrored
  have both := return_in_memory op f s
  generalize op.inMemory s = outcome at ran equal after both
  obtain ⟨answer, state⟩ := outcome
  cases equal with
  | error e =>
      refine ⟨.error e, v', ?_, ?_, ?_⟩ <;> rw [both]
      · exact goes_failed ran
      · exact .error e
      · exact after
  | @ok _ b values =>
      refine ⟨.ok (f b), v', ?_, ?_, ?_⟩ <;> rw [both]
      · exact goes_bind ran (goes_pure _)
      · exact .ok (keeps _ _ values)
      · exact after

theorem follows_found (sound : s.Sound) {index type : String} {f : Option Relation → StoreM α}
    (there : ∀ s', s'.memory = s.memory → (s.memory.typeOf? ⟨index, type⟩).isSome →
      Follows habits used same (f (some ⟨index, type⟩)) s')
    (missing : ∀ s', Follows habits used same (f none) s') : Follows habits used same (Store.relation? index type >>= f) s := by
  refine follows_bind (follows_relation index type) fun found asked => ?_
  rw [relation_in_memory sound] at asked ⊢
  cases present : s.memory.typeOf? ⟨index, type⟩ with
  | some entry =>
      rw [present] at asked
      cases asked
      exact there _ (touch_memory s _) (Option.isSome_of_eq_some present)
  | none =>
      rw [present] at asked
      cases asked
      exact missing _

theorem follows_create_index (separate : Separate used) {name : String} (options : String)
    (short : checkIndexName name = .ok () → name.length ≤ longestName) : Follows habits used Eq (createIndex name options) s := by
  refine follows_given fun _ accepted => ?_
  refine follows_bind (follows_ask fun v mirrored => insert_index_agrees separate mirrored name options (short accepted)) fun entry _ => ?_
  cases entry with
  | some entry => exact follows_pure rfl
  | none => exact follows_throw _

theorem follows_create_type (separate : Separate used) {index type : String} (mine : ∀ r, Relation.ofNames index type = .ok r → used r)
    (options : String) : Follows habits used Eq (createType index type options) s := by
  refine follows_bind (follows_establish separate mine options) fun established _ => ?_
  obtain ⟨r, creation⟩ := established
  cases creation with
  | created entry => exact follows_pure rfl
  | existing entry => exact follows_throw _

theorem follows_replace_options (separate : Separate used) (index type options : String) :
    Follows habits used Eq (replaceTypeOptions index type options) s := by
  refine follows_bind (follows_ask fun v mirrored => store_options_agrees separate mirrored index type options) fun entry _ => ?_
  cases entry with
  | some entry => exact follows_pure rfl
  | none => exact follows_throw _

theorem follows_get_document (sound : s.Sound) (index type id : String) : Follows habits used Eq (getDocument index type id) s := by
  rw [getDocument]
  split
  · exact follows_pure rfl
  · refine follows_found sound (fun s' kept typed => ?_) fun s' => follows_pure rfl
    rw [← kept] at typed
    exact follows_ask fun v mirrored => fetch_document_agrees mirrored typed id

theorem follows_delete_document (separate : Separate used) (sound : s.Sound) (index type id : String) :
    Follows habits used Eq (Store.deleteDocument index type id) s := by
  rw [Store.deleteDocument]
  split
  · exact follows_pure rfl
  · refine follows_found sound (fun s' kept typed => ?_) fun s' => follows_pure rfl
    rw [← kept] at typed
    exact follows_ask fun v mirrored => remove_document_agrees separate mirrored typed id

theorem follows_update_document (separate : Separate used) (sound : s.Sound) (index type : String) (source : Json) (id : String)
    (small : ∀ d, ((Store.updateDocument index type source id).inMemory s).1 = .ok d → d.version ≤ greatestInteger) :
    Follows habits used Eq (Store.updateDocument index type source id) s := by
  rw [update_document_in_memory sound] at small
  rw [Store.updateDocument]
  split
  · exact follows_throw _
  · rename_i given
    rw [if_neg given] at small
    refine follows_found sound (fun s' kept typed => ?_) fun s' => follows_throw _
    have inRange : ∀ d ∈ (s'.memory.table ⟨index, type⟩).find? id, d.version < greatestInteger := by
      intro d member
      rw [kept, ← find_typed typed] at member
      rw [show s.find? ⟨index, type⟩ id = some d from member] at small
      have next : d.version + 1 ≤ greatestInteger := small _ rfl
      omega
    rw [← kept] at typed
    refine follows_bind (follows_ask fun v mirrored =>
      replace_document_agrees separate mirrored typed id source inRange) fun written _ => ?_
    cases written with
    | some d => exact follows_pure rfl
    | none => exact follows_throw _

def NumberNear (t : Table) : Prop := ∃ k < maxDraws, t.hasId (toString (t.drawn + 1 + k)) = false

theorem follows_insert (separate : Separate used) (typed : (s.memory.typeOf? r).isSome) (source : Json) (id : Option String)
    (short : ∀ given ∈ id, given.length ≤ longestId) (near : id = none → NumberNear (s.memory.table r)) :
    Follows habits used Eq (ask (.insertDocument r id source)) s := by
  cases id with
  | some id => exact follows_ask fun v mirrored => insert_supplied_agrees separate mirrored typed id source (short id rfl)
  | none => exact follows_ask fun v mirrored => insert_generated_agrees separate mirrored typed source (near rfl)

theorem follows_obtained (separate : Separate used) (sound : s.Sound) {index type : String}
    (mine : ∀ r, Relation.ofNames index type = .ok r → used r) {f : Relation → StoreM α}
    (later : ∀ s' : State, (s'.memory.typeOf? ⟨index, type⟩).isSome →
      s'.memory.table ⟨index, type⟩ = s.memory.table ⟨index, type⟩ → Follows habits used same (f ⟨index, type⟩) s') :
    Follows habits used same (KnownRelations.obtain index type >>= f) s := by
  refine follows_bind (follows_obtain separate mine) fun r obtained => ?_
  rw [obtain_in_memory sound] at obtained ⊢
  cases valid : Relation.ofNames index type with
  | error e =>
      rw [valid] at obtained
      cases obtained
  | ok q =>
      rw [valid] at obtained
      cases obtained
      obtain rfl := relation_of_names valid
      exact later _ (provided_entry s ⟨index, type⟩ "") provide_table

theorem accepted_id_fits {id : String} (accepted : checkId id = .ok ()) : id.length ≤ longestId :=
  Nat.le_trans (length_bytes id) (accepted_id_bytes accepted)

theorem follows_create_document (separate : Separate used) (sound : s.Sound) {index type : String}
    (mine : ∀ r, Relation.ofNames index type = .ok r → used r) (source : Json) (id : Option String)
    (near : id.filter (· ≠ "") = none → NumberNear (s.memory.table ⟨index, type⟩)) :
    Follows habits used Eq (createDocument index type source id) s := by
  unfold createDocument
  generalize id.filter (· ≠ "") = id at near ⊢
  cases id with
  | none =>
      refine follows_obtained separate sound mine fun s' typed held => ?_
      refine follows_bind (follows_insert separate typed source none (by simp) fun _ => held ▸ near rfl) fun inserted _ => ?_
      cases inserted with
      | some d => exact follows_pure rfl
      | none => exact follows_throw _
  | some id =>
      refine follows_given fun _ accepted => ?_
      refine follows_obtained separate sound mine fun s' typed held => ?_
      have short : ∀ given ∈ some id, given.length ≤ longestId := by simpa using accepted_id_fits accepted
      refine follows_bind (follows_insert separate typed source (some id) short (by simp)) fun inserted _ => ?_
      cases inserted with
      | some d => exact follows_pure rfl
      | none => exact follows_throw _

theorem follows_select (sound : s.Sound) (index type : String) {p : Predicate} (plain : p.conditions = []) :
    Follows habits used List.Perm (select index type p) s := by
  refine follows_found sound (fun s' kept typed => ?_) fun s' => follows_pure (List.Perm.refl _)
  rw [← kept] at typed
  exact follows_ask fun v mirrored => select_documents_agrees mirrored typed plain

end SearchStore.Sql

import SearchStore.Proofs.Migration.Outline
import SearchStore.Proofs.Query.Analyzers
import SearchStore.Proofs.Rest.IndexCreation
import SearchStore.Proofs.Rest.Paths
import SearchStore.Proofs.Store.Spared

/-!
Mappings read back. A type gets its mapping with its index, by a request for the mapping alone, or from a
migration, and keeps it until its options are replaced. A request for the mapping shows the options as
they are written: what a migration has written around a mapping is shown with it.
-/

set_option autoImplicit false

namespace SearchStore

namespace Rest

open Store (State Reachable Spares asks_pure asks_throw asks_lift asks_bind asks_adapt)
open Store.State RestM StoreM

variable {α : Type} {service : Service} {s s' : State} {r : Relation} {entry : TypeEntry} {index type text : String}
  {m : Json} {q : Request}

theorem store_spares {op : StoreM α} (spares : Spares r op) : Spares r (RestM.store op) := asks_adapt _ spares

theorem create_types_spare (index : String) (mappings : List (String × Json)) : Spares r (createTypes index mappings) := by
  induction mappings with
  | nil => exact asks_pure _
  | cons m rest ih => exact asks_bind (store_spares (Store.create_type_spares index m.1 m.2.text)) fun _ => ih

theorem put_mapping_spares {index type : String} (apart : r ≠ ⟨index, type⟩) (text : String) :
    Spares r (putMapping index type text) := by
  refine asks_bind (asks_lift _) fun _ => ?_
  refine asks_bind (store_spares (Store.asks_request (Store.plain_spares _ id))) fun there => ?_
  split
  · exact asks_bind (store_spares (Store.replace_options_spares apart text)) fun _ => asks_pure _
  · exact asks_bind (store_spares (Store.create_type_spares index type text)) fun _ => asks_pure _

theorem put_document_spares (index type id text : String) : Spares r (putDocument index type id text) := by
  refine asks_bind (asks_lift _) fun source => ?_
  refine asks_bind (store_spares (Store.document_exists_spares index type id)) fun there => ?_
  split
  · exact asks_bind (store_spares (Store.update_document_spares index type source id)) fun _ => asks_pure _
  · exact asks_bind (store_spares (Store.create_document_spares index type source (some id))) fun _ => asks_pure _

theorem perform_spares (service : Service) (body : Body) (o : Operation String)
    (other : o ≠ .putMapping r.index r.type) : Spares r (service.perform body o) := by
  have read : Spares r (liftM (body.read service.bodyLimit) : RestM String) := asks_lift _
  cases o with
  | info | health => exact asks_pure _
  | bulk scope =>
      exact asks_bind read fun text => asks_bind (store_spares (Store.bulk_spares text _ _)) fun _ => asks_pure _
  | search scope =>
      refine asks_bind read fun text => asks_bind (asks_lift _) fun request => ?_
      exact asks_bind (store_spares (Store.search_spares _ _ request)) fun _ => asks_pure _
  | createIndex i =>
      refine asks_bind read fun text => ?_
      rw [create_index_parts]
      refine asks_bind (asks_lift _) fun options => ?_
      refine asks_bind (store_spares (Store.asks_create_index (Store.plain_spares _ id))) fun _ => ?_
      exact asks_bind (create_types_spare i (declared options)) fun _ => asks_pure _
  | indexExists i => exact asks_bind (store_spares (Store.asks_request (Store.plain_spares _ id))) fun _ => asks_pure _
  | putMapping i t =>
      have apart : r ≠ ⟨i, t⟩ := by
        rintro rfl
        exact other rfl
      exact asks_bind read fun text => put_mapping_spares apart text
  | getMapping i t =>
      refine asks_bind (store_spares (Store.asks_request (Store.plain_spares _ id))) fun there => ?_
      cases there with
      | some entry => exact asks_pure _
      | none => exact asks_throw _
  | createDocument i t =>
      refine asks_bind read fun text => asks_bind (asks_lift _) fun source => ?_
      exact asks_bind (store_spares (Store.create_document_spares i t source none)) fun _ => asks_pure _
  | putDocument i t d => exact asks_bind read fun text => put_document_spares i t d text
  | getDocument i t d => exact asks_bind (store_spares (Store.asks_get_document (Store.plain_spares _ id) fun _ => Store.plain_spares _ id)) fun _ => asks_pure _
  | deleteDocument i t d => exact asks_bind (store_spares (Store.delete_document_spares i t d)) fun _ => asks_pure _

-- What may happen to a store: an operation, a request served over it, or a transfer of a migration.
inductive Event where
  | operation (op : Store.Operation)
  | request (q : Request)
  | transfer (t : Migration.Transfer)

namespace Event

def step (service : Service) (s : State) : Event → State
  | operation op => (op.step s).2
  | request q => (service.inMemory q s).2
  | transfer t => t.carry s

-- A request for the mapping replaces nothing unless its body can be read.
def Replaces (service : Service) (r : Relation) : Event → Prop
  | operation op => op.Replaces r
  | request q =>
      q.operation? = some (.putMapping r.index r.type) ∧
        ∃ text v, q.body.read service.bodyLimit = .ok text ∧ valueOf text = .ok v
  | transfer t => ∃ m, t = .mapping r.index r.type m

theorem operation_keeps (op : Store.Operation) (other : ¬ op.Replaces r) (present : s.memory.typeOf? r = some entry) :
    (op.step s).2.memory.typeOf? r = some entry :=
  Store.spared_entry (Store.operation_spares op other) present

theorem unread_put_changes_nothing {body : Body} (index type : String)
    (unread : ¬ ∃ text v, body.read service.bodyLimit = .ok text ∧ valueOf text = .ok v) :
    ((service.perform body (.putMapping index type)).inMemory s).2 = s := by
  rw [Service.perform, bind_served, lift_served]
  cases read : body.read service.bodyLimit with
  | error e => rfl
  | ok text =>
      dsimp only
      rw [putMapping, bind_served, lift_served]
      cases valued : valueOf text with
      | error e => rfl
      | ok v => exact absurd ⟨text, v, read, valued⟩ unread

theorem request_keeps (q : Request) (other : ¬ (request q).Replaces service r) (present : s.memory.typeOf? r = some entry) :
    (service.inMemory q s).2.memory.typeOf? r = some entry := by
  cases asked : q.operation? with
  | none =>
      rw [Service.nothing_served asked]
      exact present
  | some o =>
      rw [Service.operation_served asked]
      by_cases put : o = .putMapping r.index r.type
      · subst put
        rw [unread_put_changes_nothing r.index r.type fun read => other ⟨asked, read⟩]
        exact present
      · exact Store.spared_entry (perform_spares service q.body o put) present

theorem replacing_transfer {t : Migration.Transfer} {op : Store.Operation} (carried : t.operation? s = some op)
    (replaces : op.Replaces r) : ∃ m, t = .mapping r.index r.type m := by
  obtain ⟨options, rfl⟩ := replaces
  cases t with
  | mapping i t m =>
      rw [Migration.Transfer.operation?] at carried
      cases found : s.memory.typeOf? ⟨i, t⟩ with
      | some there =>
          rw [found] at carried
          cases carried
          exact ⟨m, rfl⟩
      | none =>
          rw [found] at carried
          cases carried
  | document hit => cases carried
  | finished name => cases carried

theorem transfer_keeps (t : Migration.Transfer) (other : ¬ (transfer t).Replaces service r)
    (present : s.memory.typeOf? r = some entry) : (t.carry s).memory.typeOf? r = some entry := by
  rw [Migration.Transfer.carry]
  cases carried : t.operation? s with
  | none => exact present
  | some op => exact operation_keeps op (fun replaces => other (replacing_transfer carried replaces)) present

theorem step_keeps (e : Event) (other : ¬ e.Replaces service r) (present : s.memory.typeOf? r = some entry) :
    (e.step service s).memory.typeOf? r = some entry := by
  cases e with
  | operation op => exact operation_keeps op other present
  | request q => exact request_keeps q other present
  | transfer t => exact transfer_keeps t other present

theorem events_keep (events : List Event) (others : ∀ e ∈ events, ¬ e.Replaces service r)
    (present : s.memory.typeOf? r = some entry) : (events.foldl (step service) s).memory.typeOf? r = some entry := by
  induction events generalizing s with
  | nil => exact present
  | cons e rest ih =>
      obtain ⟨first, later⟩ := List.forall_mem_cons.mp others
      exact ih later (step_keeps e first present)

end Event

inductive Way where
  | listed
  | sent
  | copied
deriving DecidableEq, Repr

-- The mapping becomes that of the type: listed under its name when its index is created, sent as a body, or
-- copied by a migration.
inductive Becomes (service : Service) (index type : String) (m : Json) : Way → State → State → Prop where
  | listed (q : Request) (s : State) (text : String) (options : Option Json)
      (asked : q.operation? = some (.createIndex index)) (opens : Opens service q.body index s text options)
      (reached : (type, m) ∈ (declared options).takeWhile (fits index)) :
      Becomes service index type m .listed s (service.inMemory q s).2
  | sent (q : Request) (s : State) (text : String) (asked : q.operation? = some (.putMapping index type))
      (read : q.body.read service.bodyLimit = .ok text) (valued : valueOf text = .ok (some m)) :
      Becomes service index type m .sent s (service.inMemory q s).2
  | copied (s : State) : Becomes service index type m .copied s ((Migration.copyMapping index type m).inMemory s).2

inductive Way.Writes (type : String) (m : Json) : Way → String → Prop where
  | listed : Writes type m .listed m.text
  | sent (text : String) (valued : valueOf text = .ok (some m)) : Writes type m .sent text
  | copied : Writes type m .copied (Migration.optionsText type m)

theorem value_parsed (valued : valueOf text = .ok (some m)) : Json.parse? text = some m := by
  rw [valueOf] at valued
  split at valued
  · cases valued
  · split at valued
    · rename_i v parsed
      cases valued
      exact parsed
    · cases valued

theorem mapping_put_stored (sound : s.Sound) (valid : Relation.ofNames index type = .ok ⟨index, type⟩)
    (valued : valueOf text = .ok (some m)) :
    ((putMapping index type text).inMemory s).2.memory.typeOf? ⟨index, type⟩ = some ⟨type, index, text⟩ := by
  rw [putMapping, bind_served, lift_served, valued]
  dsimp only
  rw [type_fetched]
  cases present : s.memory.typeOf? ⟨index, type⟩ with
  | some there =>
      simp only [Option.isSome_some, ↓reduceIte]
      rw [reported_served, replace_options_in_memory]
      exact Memory.entry_replaced_same.trans (by rw [present]; rfl)
  | none =>
      simp only [Option.isSome_none, Bool.false_eq_true, ↓reduceIte]
      rw [reported_served, create_type_in_memory sound, valid]
      exact provide_entry.trans (by rw [if_pos rfl, present]; rfl)

theorem mapping_copied (sound : s.Sound) (valid : Relation.ofNames index type = .ok ⟨index, type⟩) :
    ((Migration.copyMapping index type m).inMemory s).2.memory.typeOf? ⟨index, type⟩ =
      some ⟨type, index, Migration.optionsText type m⟩ := by
  rw [Migration.copy_mapping_carries sound valid]
  exact Migration.mapping_described sound valid

theorem mapping_listed {options : Option Json} (sound : s.Sound) (asked : q.operation? = some (.createIndex index))
    (opens : Opens service q.body index s text options) (reached : (type, m) ∈ (declared options).takeWhile (fits index)) :
    (service.inMemory q s).2.memory.typeOf? ⟨index, type⟩ = some ⟨type, index, m.text⟩ := by
  obtain ⟨result, performed, _⟩ := creation_opened sound opens
  rw [Service.operation_served asked, performed]
  have distinct := (declared_distinct opens.valued).sublist (List.takeWhile_sublist (fits index))
  exact declared_types (fun n _ => opened_untyped sound opens n.1) distinct (type, m) reached

theorem mapping_stored {way : Way} (reachable : Reachable s) (valid : Relation.ofNames index type = .ok ⟨index, type⟩)
    (becomes : Becomes service index type m way s s') :
    ∃ options, way.Writes type m options ∧ s'.memory.typeOf? ⟨index, type⟩ = some ⟨type, index, options⟩ := by
  have sound := reachable_sound reachable
  cases becomes with
  | listed q _ text options asked opens reached => exact ⟨_, .listed, mapping_listed sound asked opens reached⟩
  | sent q _ text asked read valued =>
      refine ⟨text, .sent text valued, ?_⟩
      have performed : (service.perform q.body (.putMapping index type)).inMemory s = (putMapping index type text).inMemory s := by
        rw [Service.perform, bind_served, lift_served, read]
      rw [Service.operation_served asked, performed]
      exact mapping_put_stored sound valid valued
  | copied => exact ⟨_, .copied, mapping_copied sound valid⟩

def mappingResponse (index type : String) (m : Json) : Response :=
  .json 200 (.object [(index, .object [("mappings", .object [(type, m)])])])

open Mapping (wrapped)

-- A migration writes an object around the mapping, which is shown with it as far as it can be read.
def Way.shown (type : String) (m : Json) : Way → Json
  | .listed | .sent => m
  | .copied => if (wrapped type m).nesting ≤ Json.depthLimit then wrapped type m else .object []

theorem options_shown {way : Way} {options : String} (canonical : m.Canonical) (integral : m.Integral)
    (shallow : m.nesting ≤ Json.depthLimit) (writes : way.Writes type m options) : mappingOf options = way.shown type m := by
  have legible := Json.integral_legible integral
  have same := Json.integral_reread integral
  cases writes with
  | listed => rw [mappingOf, Json.text_read legible canonical shallow, same, Option.getD_some, Way.shown]
  | sent text valued => rw [mappingOf, value_parsed valued, Option.getD_some, Way.shown]
  | copied =>
      have around := Mapping.wrapped_legible type legible
      rw [mappingOf, Migration.optionsText, Way.shown]
      by_cases fit : (wrapped type m).nesting ≤ Json.depthLimit
      · have unchanged : (wrapped type m).reread = wrapped type m := congrArg (wrapped type) same
        rw [if_pos fit, ← wrapped, Json.pretty_text_read around (Mapping.wrapped_canonical type canonical) fit, unchanged,
          Option.getD_some]
      · rw [if_neg fit, ← wrapped, Json.pretty_text_unread around (Nat.lt_of_not_le fit)]
        rfl

theorem mapping_shown {options : String} (asked : q.operation? = some (.getMapping index type)) (visible : q.verb = .get)
    (present : s.memory.typeOf? ⟨index, type⟩ = some ⟨type, index, options⟩) :
    (service.inMemory q s).1 = mappingResponse index type (mappingOf options) := by
  have performed : (service.perform q.body (.getMapping index type)).inMemory s =
      (.ok (mappingResponse index type (mappingOf options)), s) := by
    rw [Service.perform, getMapping, type_fetched, present]
    rfl
  rw [Service.operation_served asked, performed, Service.shown, if_neg (by rw [visible]; decide)]
  rfl

theorem response_shows {n : Json} : mappingResponse index type n = mappingResponse index type m ↔ n = m := by
  simp [mappingResponse, Response.json]

theorem shown_iff (way : Way) (type : String) (m : Json) : way.shown type m = m ↔ way ≠ .copied := by
  cases way with
  | listed | sent => simp [Way.shown]
  | copied =>
      refine iff_of_false (fun same => ?_) (by simp)
      have nested := Mapping.wrapped_nesting type m
      rw [Way.shown] at same
      split at same
      · rw [same] at nested
        omega
      · rename_i deep
        rw [← same] at nested deep
        rw [nested] at deep
        exact deep (by decide)

/-- Whatever else has happened since, a mapping is shown as it was declared, unless a migration has copied
it: then the object written around it is shown in its place. -/
theorem declared_mapping_shown_iff_not_copied (service : Service) {way : Way} {s s' : State} (reachable : Reachable s)
    (valid : Relation.ofNames index type = .ok ⟨index, type⟩) (canonical : m.Canonical) (integral : m.Integral)
    (shallow : m.nesting ≤ Json.depthLimit) (becomes : Becomes service index type m way s s') (events : List Event)
    (others : ∀ e ∈ events, ¬ e.Replaces service ⟨index, type⟩) :
    (∀ body, Request.operation? ⟨.get, mappingPath index type, body⟩ = some (.getMapping index type)) ∧
      ∀ q : Request, q.verb = .get → q.operation? = some (.getMapping index type) →
        (service.inMemory q (events.foldl (Event.step service) s')).1 = mappingResponse index type (way.shown type m) ∧
        ((service.inMemory q (events.foldl (Event.step service) s')).1 = mappingResponse index type m ↔ way ≠ .copied) := by
  obtain ⟨named, typed⟩ := pair_checked valid
  refine ⟨mapping_asked named typed, fun q visible asked => ?_⟩
  obtain ⟨options, writes, stored⟩ := mapping_stored reachable valid becomes
  have kept : (events.foldl (Event.step service) s').memory.typeOf? ⟨index, type⟩ = some ⟨type, index, options⟩ :=
    Event.events_keep events others stored
  have shown : (service.inMemory q (events.foldl (Event.step service) s')).1 =
      mappingResponse index type (mappingOf options) := mapping_shown asked visible kept
  rw [options_shown canonical integral shallow writes] at shown
  exact ⟨shown, by rw [shown, response_shows, shown_iff]⟩

def smallMapping : Json := .object [("properties", .object [])]

def listingBody : String := "\x7b\"mappings\":\x7b\"t\":\x7b\"properties\":\x7b\x7d\x7d\x7d\x7d"

def mappingAsked : Request := ⟨.get, mappingPath "a" "t", .ofText ""⟩

theorem small_mapping_canonical : smallMapping.Canonical := by
  simp only [smallMapping, Json.Canonical, Json.CanonicalMembers, Keyed.Ordered, and_true]
  decide

theorem listed_mapping_shown :
    (smallService.inMemory mappingAsked (Event.step smallService
      (smallService.inMemory ⟨.put, "/a", .ofText listingBody⟩ .fresh).2 (.request documentPut))).1 =
      mappingResponse "a" "t" smallMapping := by
  have asked : Request.operation? ⟨.put, "/a", .ofText listingBody⟩ = some (.createIndex "a") := by decide +kernel
  have opens : Opens smallService (.ofText listingBody) "a" .fresh listingBody
      (some (.object [("mappings", .object [("t", smallMapping)])])) :=
    ⟨by decide +kernel, by decide +kernel, by decide, by decide⟩
  have becomes : Becomes smallService "a" "t" smallMapping .listed .fresh _ := .listed _ _ _ _ asked opens (by decide)
  have valid : Relation.ofNames "a" "t" = .ok ⟨"a", "t"⟩ := by decide
  have other : ∀ e ∈ [Event.request documentPut], ¬ e.Replaces smallService ⟨"a", "t"⟩ := by
    intro e member
    obtain rfl := List.mem_singleton.mp member
    have put : documentPut.operation? = some (.putDocument "a" "b" "1") := by decide +kernel
    simp [Event.Replaces, put]
  have shown := declared_mapping_shown_iff_not_copied smallService ⟨[], rfl⟩ valid small_mapping_canonical (by decide)
    (by decide) becomes [.request documentPut] other
  exact ((shown.2 mappingAsked rfl (shown.1 _)).2).mpr (by decide)

def smallSource : Migration.Script where
  indices := .ok ["a"]
  mappings := [("a", .ok [("t", smallMapping)])]
  scrolls := []
  close := .ok ()

def migrated : State := (Migration.runInMemory Migration.ScriptedSource.answer 0 (.start smallSource) .fresh).2.2

theorem copied_mapping_not_shown :
    (smallService.inMemory mappingAsked migrated).1 = mappingResponse "a" "t" (wrapped "t" smallMapping) ∧
      (smallService.inMemory mappingAsked migrated).1 ≠ mappingResponse "a" "t" smallMapping := by
  have shown : (smallService.inMemory mappingAsked migrated).1 = mappingResponse "a" "t" (wrapped "t" smallMapping) := by
    decide +kernel
  exact ⟨shown, by rw [shown]; decide +kernel⟩

end Rest

end SearchStore

import SearchStore.Proofs.Rest.Created
import SearchStore.Proofs.Rest.Paths
import SearchStore.Proofs.Store.Bystanders

/-!
Documents under their paths. A document that has been put is read under its path as it was put, however the
path is written, and deleted under it, whatever has been asked of other documents in between. What is answered
about those does not tell what it says.
-/

set_option autoImplicit false

namespace SearchStore.Rest

open Store Store.State RestM StoreM

variable {q : Request} {o : Operation String} {index type id key path text : String} {v : Json} {s : State}
  {p r : Relation} {d : Document}

-- The path of a document, each of its names written in one of the ways there are.
def Spells (path index type id : String) : Prop :=
  ∃ i t d, Text.Encodes index.toList i ∧ Text.Encodes type.toList t ∧ Text.Encodes id.toList d ∧
    path.toList = '/' :: (i ++ '/' :: (t ++ '/' :: d))

structure Addressable (type id : String) : Prop where
  mapping : type ≠ "_mapping"
  filled : id ≠ ""
  bulk : id ≠ "_bulk"
  search : id ≠ "_search"

theorem literal_encodes {name literal : String} (plain : literal.toList.all Text.isPlain = true)
    (encodes : Text.Encodes name.toList literal.toList) : name = literal := by
  have decoded := Text.decode_encoding encodes
  rw [Text.decode_encoding (Text.encodes_itself plain)] at decoded
  exact (Option.some.inj decoded).symm

theorem document_resource (spells : Spells path index type id) (addressable : Addressable type id) :
    ∃ i t d, Resource.ofPath? path = some (.document i t d) ∧ decodeIndex i = .ok index ∧ decodeType t = .ok type ∧
      decodeId d = .ok id := by
  obtain ⟨i, t, d, first, second, third, characters⟩ := spells
  have ledTo := path_of_three (Text.encoding_within first) (Text.encoding_within second) (Text.encoding_within third) characters
  have filled : d ≠ [] := by
    rintro rfl
    exact addressable.filled (Option.some.inj (Text.decode_encoding third)).symm
  have mapping : t ≠ Segment.mapping := by
    rintro rfl
    exact addressable.mapping (literal_encodes (by decide) second)
  have bulk : d ≠ Segment.bulk := by
    rintro rfl
    exact addressable.bulk (literal_encodes (by decide) third)
  have search : d ≠ Segment.search := by
    rintro rfl
    exact addressable.search (literal_encodes (by decide) third)
  refine ⟨i, t, d, ?_, encoding_decoded _ first, encoding_decoded _ second, encoding_decoded _ third⟩
  rw [ledTo, Resource.ofThree, if_neg filled, if_neg mapping, if_neg bulk, if_neg search]

theorem document_asked (spells : Spells path index type id) (addressable : Addressable type id) (body : Body) :
    Request.operation? ⟨.put, path, body⟩ = some (.putDocument index type id) ∧
    Request.operation? ⟨.get, path, body⟩ = some (.getDocument index type id) ∧
    Request.operation? ⟨.delete, path, body⟩ = some (.deleteDocument index type id) := by
  obtain ⟨i, t, d, led, first, second, third⟩ := document_resource spells addressable
  have asks {verb : Verb} (operation : Operation Segment) {named : Operation String}
      (applies : Operation.of? verb (.document i t d) = some operation) (decoded : operation.decode = .ok named) :
      Request.operation? ⟨verb, path, body⟩ = some named := by
    rw [Request.operation?, led, Option.bind_some, applies, Option.bind_some, decoded]
    rfl
  refine ⟨asks (.putDocument i t d) rfl ?_, asks (.getDocument i t d) rfl ?_, asks (.deleteDocument i t d) rfl ?_⟩
  all_goals
    rw [Operation.decode, first, second, third]
    rfl

def Operation.document? {α : Type} : Operation α → Option (α × α × α)
  | .putDocument i t d | .getDocument i t d | .deleteDocument i t d => some (i, t, d)
  | _ => none

theorem decoded_document {operation : Operation Segment} (decoded : operation.decode = .ok o)
    (about : o.document? = some (index, type, id)) : ∃ i t d, operation.document? = some (i, t, d) ∧ decodeId d = .ok id := by
  cases Operation.decode_cases decoded with
  | putDocument _ _ third | getDocument _ _ third | deleteDocument _ _ third =>
      cases about
      exact ⟨_, _, _, rfl, third⟩
  | info | health | bulk | search | createIndex | indexExists | putMapping | getMapping | createDocument => cases about

theorem verb_document {verb : Verb} {resource : Resource Segment} {operation : Operation Segment} {i t d : Segment}
    (applies : Operation.ofVerb? verb resource = some operation) (about : operation.document? = some (i, t, d)) :
    resource = .document i t d := by
  cases resource with
  | bulk scope =>
      cases scope <;> dsimp only [Operation.ofVerb?] at applies
      all_goals
        split at applies <;> cases applies
        cases about
  | document a b c =>
      rw [Operation.ofVerb?] at applies
      repeat' split at applies
      all_goals cases applies <;> cases about
      all_goals rfl
  | root | health | search | index | mapping | type =>
      rw [Operation.ofVerb?] at applies
      repeat' split at applies
      all_goals cases applies <;> cases about

theorem applied_document {verb : Verb} {resource : Resource Segment} {operation : Operation Segment} {i t d : Segment}
    (applies : Operation.of? verb resource = some operation) (about : operation.document? = some (i, t, d)) :
    resource = .document i t d := by
  rw [Operation.of?.eq_def] at applies
  split at applies
  · cases applies
    cases about
  · exact verb_document applies about
  · exact verb_document applies about

theorem segment_filled {i t d : Segment} (led : Resource.ofPath? path = some (.document i t d)) : d ≠ [] := by
  rw [Resource.ofPath?] at led
  split at led
  · rw [Resource.ofSegments?.eq_def] at led
    split at led
    · rw [Resource.ofOne] at led
      repeat' split at led
      all_goals cases led
    · rw [Resource.ofTwo] at led
      repeat' split at led
      all_goals cases led
    · rw [Resource.ofThree] at led
      repeat' split at led
      all_goals cases led
      assumption
    · cases led
  · cases led

theorem asked_filled (asked : q.operation? = some o) (about : o.document? = some (index, type, id)) : id ≠ "" := by
  obtain ⟨resource, led, asked⟩ := Option.bind_eq_some_iff.mp asked
  obtain ⟨operation, applies, asked⟩ := Option.bind_eq_some_iff.mp asked
  cases decoded : operation.decode with
  | error noun => simp [decoded, Except.toOption] at asked
  | ok named =>
      rw [decoded] at asked
      cases asked
      obtain ⟨i, t, d, places, read⟩ := decoded_document decoded about
      rw [applied_document applies places] at led
      rintro rfl
      refine segment_filled led (Text.decoded_empty ?_)
      rw [decodeId, decodeName] at read
      cases name : Text.percentDecode d with
      | none =>
          rw [name] at read
          cases read
      | some text =>
          rw [name] at read
          cases read
          rfl

def Operation.creates {α : Type} : Operation α → Bool
  | .putDocument _ _ _ => true
  | _ => false

theorem bystands_reported {α : Type} {op : StoreM α} {made : RestM Response} {creates : Bool} (f : α → Response)
    (bystands : Bystands p key creates op.inMemory)
    (reports : ∀ s, made.inMemory s = (((op.inMemory s).1.mapError .store).map f, (op.inMemory s).2)) :
    Bystands p key creates made.inMemory :=
  bystands_map (fun result => (result.mapError Refusal.store).map f) bystands reports

theorem bystands_given {α : Type} {first : Except Refusal α} {f : α → RestM Response} {creates : Bool}
    (next : ∀ a, first = .ok a → Bystands p key creates (f a).inMemory) :
    Bystands p key creates (RestM.inMemory (liftM first >>= f)) := by
  cases first with
  | ok a => exact next a rfl
  | error e =>
      have refused (s : State) : RestM.inMemory (liftM (Except.error e : Except Refusal α) >>= f) s = (.error e, s) := by
        rw [bind_served, lift_served]
      constructor
      · intro s r id d _ _ _ found
        rwa [refused]
      · intro s s' _ _ _ _
        rw [refused, refused]

theorem put_bystands (filled : key ≠ "") (text : String) :
    Bystands p key true (putDocument p.index p.type key text).inMemory := by
  refine bystands_given fun v holds => ?_
  have indexed : Bystands p key true (indexDocument p.index p.type v (some key)).inMemory := index_bystands filled
  refine bystands_reported (written p.index p.type) indexed fun s => ?_
  have whole := put_indexes p.index p.type key holds s
  rwa [putDocument, bind_served, lift_served, holds] at whole

theorem perform_bystands (service : Service) (body : Body) (filled : key ≠ "")
    (about : o.document? = some (p.index, p.type, key)) : Bystands p key o.creates (service.perform body o).inMemory := by
  cases o with
  | putDocument i t d =>
      cases about
      exact bystands_given fun text _ => put_bystands filled text
  | getDocument i t d =>
      cases about
      have fetched := bystands_unwrapped (.getDocument p.index p.type key) rfl (fun _ _ => Outcome.foundDocument.inj)
        (operation_bystands .get filled)
      exact bystands_reported _ fetched (reported_served (Store.getDocument p.index p.type key) (found p.index p.type key))
  | deleteDocument i t d =>
      cases about
      have deleted := bystands_unwrapped (.deleteDocument p.index p.type key) rfl (fun _ _ => Outcome.foundDocument.inj)
        (operation_bystands .delete filled)
      exact bystands_reported _ deleted (reported_served (Store.deleteDocument p.index p.type key) (found p.index p.type key))
  | info | health | bulk | search | createIndex | indexExists | putMapping | getMapping | createDocument => cases about

theorem request_bystands (service : Service) (asked : q.operation? = some o)
    (about : o.document? = some (p.index, p.type, key)) : Bystands p key o.creates (service.inMemory q) :=
  bystands_map (fun result => Service.shown q.verb (Service.answer result))
    (perform_bystands service q.body (asked_filled asked about) about) fun _ => Service.operation_served asked

def Request.Other (q : Request) (r : Relation) (id : String) : Prop :=
  ∃ o p key, q.operation? = some o ∧ o.document? = some (Relation.index p, p.type, key) ∧ (p, key) ≠ (r, id)

-- Requests for other documents, none of them while another pair has the same table.
inductive Service.Elsewhere (service : Service) (r : Relation) (id : String) (s : State) : State → Prop where
  | here : Elsewhere service r id s s
  | on (q : Request) (between : State) (earlier : Elsewhere service r id s between) (unshared : between.Unshared r)
      (other : q.Other r id) : Elsewhere service r id s (service.inMemory q between).2

-- Such a request is answered as in any state that differs in this document only. Under a pair that would
-- come to share the table nothing can be put where this document is, so there it has to be in both states.
def Service.Unread (service : Service) (r : Relation) (id : String) (s : State) : Prop :=
  ∀ s' q o p key, Reachable s' → Besides r id s s' →
    q.operation? = some o → o.document? = some (Relation.index p, p.type, key) → (p, key) ≠ (r, id) →
    (o.creates = true → p ≠ r → p.table = r.table → (s'.find? r id).isSome) →
    (service.inMemory q s').1 = (service.inMemory q s).1

theorem elsewhere_keeps (service : Service) {after : State} (elsewhere : service.Elsewhere r id s after)
    (reachable : Reachable s) (found : s.find? r id = some d) : Reachable after ∧ after.find? r id = some d := by
  induction elsewhere with
  | here => exact ⟨reachable, found⟩
  | on q between earlier unshared other ih =>
      obtain ⟨there, held⟩ := ih
      obtain ⟨o, p, key, asked, about, different⟩ := other
      exact ⟨Service.served_reachable service q there,
        (request_bystands service asked about).spares (reachable_sound there) unshared different held⟩

theorem document_unread (service : Service) (reachable : Reachable s) (unshared : s.Unshared r)
    (found : s.find? r id = some d) : service.Unread r id s := by
  intro s' q o p key reachable' besides asked about different there
  refine (request_bystands service asked about).alike (reachable_sound reachable) (reachable_sound reachable')
    (besides_finds besides unshared different) fun creates => besides_taken besides different fun other shared => ?_
  have held : (s.memory.table r).hasId id = true := by
    rw [Table.hasId, ← find_typed (found_entry found), found]
    rfl
  obtain ⟨e, found'⟩ := Option.isSome_iff_exists.mp (there creates other shared)
  rw [held, Table.hasId, ← find_typed (found_entry found'), found']
  rfl

-- The document is read under its path, and deleted under it, after which it is not there.
structure Service.Addresses (service : Service) (index type id : String) (version : Int) (v : Json) (s : State) : Prop where
  read : ∀ q : Request, q.verb = .get → Spells q.path index type id →
    (service.inMemory q s).1 = .json 200 (ReadEnvelope.mk index type id (some version) true (some v)).toJson
  deleted : ∀ q : Request, q.verb = .delete → Spells q.path index type id →
    (service.inMemory q s).1 = .json 200 (ReadEnvelope.mk index type id (some version) true (some v)).toJson
  gone : ∀ q q' : Request, q.verb = .delete → q'.verb = .get → Spells q.path index type id → Spells q'.path index type id →
    (service.inMemory q' (service.inMemory q s).2).1 = .json 404 (ReadEnvelope.mk index type id none false none).toJson

theorem get_served (service : Service) (addressable : Addressable type id) (sound : s.Sound) (verb : q.verb = .get)
    (spells : Spells q.path index type id) : (service.inMemory q s).1 = found index type id (s.find? ⟨index, type⟩ id) := by
  obtain ⟨verb', path, body⟩ := q
  cases verb
  rw [Service.operation_served (document_asked spells addressable body).2.1, Service.perform, getDocument, reported_served,
    get_document_in_memory sound, if_neg addressable.filled]
  rfl

theorem delete_served (service : Service) (addressable : Addressable type id) (sound : s.Sound) (verb : q.verb = .delete)
    (spells : Spells q.path index type id) : service.inMemory q s =
      (found index type id (s.find? ⟨index, type⟩ id), ((Store.deleteDocument index type id).inMemory s).2) := by
  obtain ⟨verb', path, body⟩ := q
  cases verb
  rw [Service.operation_served (document_asked spells addressable body).2.2, Service.perform, deleteDocument, reported_served,
    delete_document_in_memory sound, if_neg addressable.filled]
  rfl

theorem found_addressed (service : Service) (addressable : Addressable type id) {version : Int} (reachable : Reachable s)
    (held : s.find? ⟨index, type⟩ id = some ⟨id, v, version⟩) : service.Addresses index type id version v s := by
  have sound := reachable_sound reachable
  constructor
  · intro q verb spells
    rw [get_served service addressable sound verb spells, held]
    rfl
  · intro q verb spells
    rw [delete_served service addressable sound verb spells, held]
    rfl
  · intro q q' verb verb' spells spells'
    have kept := reachable_sound (Service.served_reachable service q reachable)
    rw [get_served service addressable kept verb' spells', delete_served service addressable sound verb spells,
      deleted_absent sound held addressable.filled]
    rfl

section

variable (service : Service) (addressable : Addressable type id) (verb : q.verb = .put) (spells : Spells q.path index type id)
  (read : q.body.read service.bodyLimit = .ok text) (holds : documentOf text = .ok v)
include addressable verb spells read holds

theorem put_asked_served (s : State) : service.inMemory q s =
    (Service.answer ((((indexDocument index type v (some id)).inMemory s).1.mapError .store).map (written index type)),
      ((indexDocument index type v (some id)).inMemory s).2) := by
  obtain ⟨verb', path, body⟩ := q
  cases verb
  rw [Service.operation_served (document_asked spells addressable body).1, Service.perform, bind_served, lift_served, read]
  dsimp only
  rw [put_indexes index type id holds]
  rfl

theorem put_accepted (reachable : Reachable s) (unshared : s.Unshared ⟨index, type⟩)
    (valid : Relation.ofNames index type = .ok ⟨index, type⟩) (checked : checkId id = .ok ()) :
    (service.inMemory q s).1.status = 200 ∨ (service.inMemory q s).1.status = 201 := by
  have succeeds : ∃ d, ((indexDocument index type v (some id)).inMemory s).1 = .ok d :=
    index_succeeds (reachable_sound reachable) unshared valid checked addressable.filled
  obtain ⟨d, made⟩ := succeeds
  rw [put_asked_served service addressable verb spells read holds, made]
  simp only [Except.mapError, Except.map, Service.answer, written, Response.json]
  split
  · exact Or.inr rfl
  · exact Or.inl rfl

theorem put_writes (reachable : Reachable s) (succeeded : (service.inMemory q s).1.status < 400) :
    ∃ version, (service.inMemory q s).1 = written index type ⟨id, v, version⟩ ∧
      (service.inMemory q s).2.find? ⟨index, type⟩ id = some ⟨id, v, version⟩ := by
  rw [put_asked_served service addressable verb spells read holds] at succeeded ⊢
  obtain ⟨response, answered⟩ := answer_succeeds succeeded
  obtain ⟨d, made, shown⟩ := reported (Prod.ext answered rfl)
  have whole := index_keeps (reachable_sound reachable) addressable.filled (congrArg Prod.fst made)
  have kept := (index_writes reachable made).kept
  rw [whole] at shown kept
  refine ⟨d.version, ?_, kept⟩
  rw [answered, shown]
  rfl

theorem put_unshared (reachable : Reachable s) (unshared : s.Unshared ⟨index, type⟩) :
    (service.inMemory q s).2.Unshared ⟨index, type⟩ := by
  have alone : ((indexDocument index type v (some id)).inMemory s).2.Unshared ⟨index, type⟩ :=
    index_unshared (r := ⟨index, type⟩) (reachable_sound reachable) unshared addressable.filled
  rwa [put_asked_served service addressable verb spells read holds]

end

/-- A document that is put under a path is read and deleted under it, whatever is requested of others in between, and requests
for others do not depend on it. -/
theorem documents_addressable (service : Service) {q : Request} {index type id text : String} {v : Json} {s : State}
    (addressable : Addressable type id) (reachable : Reachable s) (unshared : s.Unshared ⟨index, type⟩) (verb : q.verb = .put)
    (spells : Spells q.path index type id) (read : q.body.read service.bodyLimit = .ok text) (holds : documentOf text = .ok v) :
    (Relation.ofNames index type = .ok ⟨index, type⟩ → checkId id = .ok () →
      (service.inMemory q s).1.status = 200 ∨ (service.inMemory q s).1.status = 201) ∧
    ((service.inMemory q s).1.status = 200 ∨ (service.inMemory q s).1.status = 201 →
      (service.inMemory q s).2.Unshared ⟨index, type⟩ ∧
      ∃ version, (service.inMemory q s).1 = written index type ⟨id, v, version⟩ ∧
        ∀ after, service.Elsewhere ⟨index, type⟩ id (service.inMemory q s).2 after →
          service.Addresses index type id version v after ∧
          (after.Unshared ⟨index, type⟩ → service.Unread ⟨index, type⟩ id after)) := by
  constructor
  · exact put_accepted service addressable verb spells read holds reachable unshared
  · intro succeeded
    have success : (service.inMemory q s).1.status < 400 := by omega
    obtain ⟨version, shown, kept⟩ := put_writes service addressable verb spells read holds reachable success
    refine ⟨put_unshared service addressable verb spells read holds reachable unshared, version, shown, ?_⟩
    intro after elsewhere
    obtain ⟨there, found⟩ := elsewhere_keeps service elsewhere (Service.served_reachable service q reachable) kept
    exact ⟨found_addressed service addressable there found, fun alone => document_unread service there alone found⟩

def slashedPut : Request := ⟨.put, "/a/_search/%C3%A9%2f", .ofText "2"⟩

theorem slashed_id_addressed : Reachable .fresh ∧ Spells slashedPut.path "a" "_search" "é/" ∧
    ∃ version, smallService.Addresses "a" "_search" "é/" version (.ofNat 2) (smallService.inMemory slashedPut .fresh).2 := by
  have reachable : Reachable .fresh := ⟨[], rfl⟩
  have unshared : State.fresh.Unshared ⟨"a", "_search"⟩ := nofun
  have spells : Spells slashedPut.path "a" "_search" "é/" := by
    have accented : Text.Escapes (Text.encodeChar 'é') "%C3%A9".toList :=
      .octet 0xC3 'C' '3' [0xA9] _ (by decide) (by decide) (.octet 0xA9 'A' '9' [] _ (by decide) (by decide) .nil)
    have slash : Text.Escapes (Text.encodeChar '/') "%2f".toList := .octet 0x2F '2' 'f' [] _ (by decide) (by decide) .nil
    exact ⟨"a".toList, "_search".toList, _, Text.encodes_itself (by decide), Text.encodes_itself (by decide),
      .escaped 'é' _ _ _ accented (.escaped '/' _ _ _ slash .nil), by decide⟩
  have read : slashedPut.body.read smallService.bodyLimit = .ok "2" := by decide +kernel
  have holds : documentOf "2" = .ok (.ofNat 2) := by decide +kernel
  have valid : Relation.ofNames "a" "_search" = .ok ⟨"a", "_search"⟩ := by decide +kernel
  have addressable : Addressable "_search" "é/" := ⟨by decide, by decide, by decide, by decide⟩
  obtain ⟨accepted, addressed⟩ := documents_addressable smallService addressable reachable unshared rfl spells read holds
  obtain ⟨-, version, -, kept⟩ := addressed (accepted valid (by decide +kernel))
  exact ⟨reachable, spells, version, (kept _ .here).1⟩

end SearchStore.Rest

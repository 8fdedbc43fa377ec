import SearchStore.Envelope.Encode
import SearchStore.Proofs.Bulk.Batch
import SearchStore.Proofs.Rest.Serving

/-!
Writing one document, by a request of its own and as the one action of a bulk request. Both run the
same operations of the store, and the response to the one says what the item of the other says.
-/

set_option autoImplicit false

namespace SearchStore

namespace Keyed

variable {α : Type}

theorem filter_insert {m : Keyed α} {key : String} {value : α} (fresh : ∀ e ∈ m, e.1 ≠ key) :
    (Keyed.insert m key value).filter (·.1 ≠ key) = m := by
  have kept : m.filter (·.1 ≠ key) = m := List.filter_eq_self.mpr fun e member => by simpa using fresh e member
  induction m with
  | nil => simp [Keyed.insert]
  | cons e rest ih =>
      obtain ⟨k, v⟩ := e
      obtain ⟨apart, others⟩ := List.forall_mem_cons.mp fresh
      have later : rest.filter (·.1 ≠ key) = rest := List.filter_eq_self.mpr fun e member => by simpa using others e member
      by_cases earlier : Text.before key k = true
      · simpa [Keyed.insert, Ne.symm apart, earlier] using kept
      · simpa [Keyed.insert, Ne.symm apart, apart, earlier] using ih others later

theorem key_of_mem_foldl {members : List (String × α)} {before : Keyed α} {e : String × α}
    (found : e ∈ members.foldl (fun m e => Keyed.insert m e.1 e.2) before) : (∃ f ∈ members, f.1 = e.1) ∨ e ∈ before := by
  induction members generalizing before with
  | nil => exact Or.inr found
  | cons f rest ih =>
      rcases ih found with ⟨g, there, same⟩ | inserted
      · exact Or.inl ⟨g, List.mem_cons_of_mem _ there, same⟩
      · rcases key_of_mem_insert inserted with same | earlier
        · exact Or.inl ⟨f, List.mem_cons_self, same.symm⟩
        · exact Or.inr earlier

end Keyed

namespace Json

def without (key : String) : Json → Json
  | .object members => .object (members.filter (·.1 ≠ key))
  | v => v

theorem last_member (members : List (String × Json)) (key : String) (v : Json) :
    (ofMembers (members ++ [(key, v)])).get? key = some v := by
  simp only [ofMembers, Keyed.ofList, List.foldl_append, List.foldl_cons, List.foldl_nil, get?]
  exact Keyed.find_insert_same _ key v

theorem without_last {members : List (String × Json)} {key : String} {v : Json} (fresh : ∀ e ∈ members, e.1 ≠ key) :
    (ofMembers (members ++ [(key, v)])).without key = ofMembers members := by
  simp only [ofMembers, Keyed.ofList, List.foldl_append, List.foldl_cons, List.foldl_nil, without]
  refine congrArg Json.object (Keyed.filter_insert ?_)
  intro e member
  obtain ⟨f, there, same⟩ := (Keyed.key_of_mem_foldl member).resolve_right List.not_mem_nil
  rw [← same]
  exact fresh f there

end Json

namespace Rest

end Rest

def ItemEnvelope.alone (i : ItemEnvelope) : Rest.Response :=
  match i.outcome with
  | .failed e => .json i.status (ErrorEnvelope.ofParts e.type e.reason i.status).toJson
  | outcome => .json i.status (.ofMembers outcome.members)

theorem outcome_unstated (outcome : ItemOutcome) : ∀ e ∈ outcome.members, e.1 ≠ "status" := by
  cases outcome with
  | put r => simp [ItemOutcome.members, WriteEnvelope.members]
  | get r =>
      cases version : r.version <;> cases source : r.source <;>
        simp [ItemOutcome.members, ReadEnvelope.members, version, source]
  | failed e => simp [ItemOutcome.members]

namespace Rest.Operation

def writesDocument {α : Type} : Operation α → Bool
  | .createDocument _ _ | .putDocument _ _ _ | .deleteDocument _ _ _ => true
  | _ => false

inductive Decodes : Operation Segment → Operation String → Prop where
  | info : Decodes .info .info
  | health : Decodes .health .health
  | bulk {scope : Scope Segment} {named : Scope String} (read : scope.decode = .ok named) : Decodes (.bulk scope) (.bulk named)
  | search {scope : Scope Segment} {named : Scope String} (read : scope.decode = .ok named) :
      Decodes (.search scope) (.search named)
  | createIndex {i : Segment} {index : String} (first : decodeIndex i = .ok index) : Decodes (.createIndex i) (.createIndex index)
  | indexExists {i : Segment} {index : String} (first : decodeIndex i = .ok index) : Decodes (.indexExists i) (.indexExists index)
  | putMapping {i t : Segment} {index type : String} (first : decodeIndex i = .ok index) (second : decodeType t = .ok type) :
      Decodes (.putMapping i t) (.putMapping index type)
  | getMapping {i t : Segment} {index type : String} (first : decodeIndex i = .ok index) (second : decodeType t = .ok type) :
      Decodes (.getMapping i t) (.getMapping index type)
  | createDocument {i t : Segment} {index type : String} (first : decodeIndex i = .ok index) (second : decodeType t = .ok type) :
      Decodes (.createDocument i t) (.createDocument index type)
  | putDocument {i t d : Segment} {index type id : String} (first : decodeIndex i = .ok index)
      (second : decodeType t = .ok type) (third : decodeId d = .ok id) : Decodes (.putDocument i t d) (.putDocument index type id)
  | getDocument {i t d : Segment} {index type id : String} (first : decodeIndex i = .ok index)
      (second : decodeType t = .ok type) (third : decodeId d = .ok id) : Decodes (.getDocument i t d) (.getDocument index type id)
  | deleteDocument {i t d : Segment} {index type id : String} (first : decodeIndex i = .ok index)
      (second : decodeType t = .ok type) (third : decodeId d = .ok id) :
      Decodes (.deleteDocument i t d) (.deleteDocument index type id)

theorem decode_cases {operation : Operation Segment} {named : Operation String} (decoded : operation.decode = .ok named) :
    Decodes operation named := by
  cases operation with
  | info | health =>
      cases decoded
      constructor
  | bulk scope | search scope =>
      rw [decode] at decoded
      cases read : scope.decode <;> rw [read] at decoded <;> cases decoded
      constructor
      exact read
  | createIndex i | indexExists i =>
      rw [decode] at decoded
      cases first : decodeIndex i <;> rw [first] at decoded <;> cases decoded
      constructor
      exact first
  | putMapping i t | getMapping i t | createDocument i t =>
      rw [decode] at decoded
      cases first : decodeIndex i <;> cases second : decodeType t <;> rw [first, second] at decoded <;> cases decoded
      constructor
      · exact first
      · exact second
  | putDocument i t d | getDocument i t d | deleteDocument i t d =>
      rw [decode] at decoded
      cases first : decodeIndex i <;> cases second : decodeType t <;> cases third : decodeId d <;>
        rw [first, second, third] at decoded <;> cases decoded
      constructor
      · exact first
      · exact second
      · exact third

theorem decoded_writes {operation : Operation Segment} {named : Operation String} (decoded : operation.decode = .ok named) :
    named.writesDocument = operation.writesDocument := by
  cases decode_cases decoded <;> rfl

theorem head_reads {resource : Resource Segment} {operation : Operation Segment} (applies : of? .head resource = some operation) :
    operation.writesDocument = false := by
  cases resource with
  | bulk scope =>
      cases scope <;> cases applies
      rfl
  | type index type => cases applies
  | root | health | search | index | mapping | document =>
      cases applies
      rfl

end Rest.Operation

namespace Rest

open Bulk Store RestM StoreM

def replaceOrCreate (index type id : String) (v : Json) : StoreM Document := do
  if ← documentExists index type id then updateDocument index type v id
  else Store.createDocument index type v (some id)

variable {α : Type} {s : State} {service : Service} {body : Body} {o : Operation String} {a : Bulk.Action}

theorem put_served (index type id : String) {text : String} {v : Json} (holds : documentOf text = .ok v) (s : State) :
    (putDocument index type id text).inMemory s =
      ((((replaceOrCreate index type id v).inMemory s).1.mapError .store).map (written index type),
        ((replaceOrCreate index type id v).inMemory s).2) := by
  rw [putDocument, bind_served, lift_served, holds]
  dsimp only
  rw [bind_served, store_served, replaceOrCreate, bind_in_memory]
  obtain ⟨looked, between⟩ := (documentExists index type id).inMemory s
  cases looked with
  | error e => rfl
  | ok there =>
      cases there with
      | true => exact reported_served (updateDocument index type v id) _ between
      | false => exact reported_served (Store.createDocument index type v (some id)) _ between

theorem writer_visible {q : Request} (asked : q.operation? = some o) (writes : o.writesDocument = true) : q.verb ≠ .head := by
  intro head
  obtain ⟨resource, _, asked⟩ := Option.bind_eq_some_iff.mp asked
  obtain ⟨operation, applies, asked⟩ := Option.bind_eq_some_iff.mp asked
  rw [head] at applies
  cases decoded : operation.decode with
  | error noun => simp [decoded, Except.toOption] at asked
  | ok named =>
      rw [decoded] at asked
      cases asked
      rw [Operation.decoded_writes decoded, Operation.head_reads applies] at writes
      cases writes

def smallService : Service := ⟨"c", 100⟩

def documentPut : Request := ⟨.put, "/a/b/1", .ofText "2"⟩

end Rest

end SearchStore

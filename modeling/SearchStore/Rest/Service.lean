import SearchStore.Bulk.Process
import SearchStore.Rest.Operation
import SearchStore.Search.Hits

/-!
Serving requests over a store. Only operations that take a body read it, after the names in the path
are decoded and before the store is asked.
-/

set_option autoImplicit false

namespace SearchStore.Rest

abbrev RestM := ExceptT Refusal (StateT KnownRelations (Dialogue Storage))

namespace RestM

def store {α : Type} (op : StoreM α) : RestM α := ExceptT.adapt .store op

end RestM

structure Service where
  clusterUuid : String
  bodyLimit : Nat
deriving DecidableEq, Repr

def malformed {α : Type} (cause : Malformed) : Except Refusal α :=
  .error (.store (.malformedInput cause))

def isBlank (text : String) : Bool := Text.allBlank text.toList

def documentOf (text : String) : Except Refusal Json :=
  if isBlank text then malformed .emptyDocument
  else
    match Json.parse? text with
    | some v => .ok v
    | none => malformed .json

def valueOf (text : String) : Except Refusal (Option Json) :=
  if isBlank text then .ok none
  else
    match Json.parse? text with
    | some v => .ok (some v)
    | none => malformed .json

def searchOf (text : String) : Except Refusal SearchRequest :=
  if isBlank text then .ok .all
  else
    match (Json.Draft.parse? text).bind SearchRequest.ofDraft? with
    | some r => .ok r
    | none => malformed .json

namespace Scope

def patterns : Scope String → String × String
  | .all => ("*", "*")
  | .index i => (i, "*")
  | .type i t => (i, t)

def defaults : Scope String → Option String × Option String
  | .all => (none, none)
  | .index i => (some i, none)
  | .type i t => (some i, some t)

end Scope

def rootInfo (clusterUuid : String) : Json :=
  .ofMembers
    [("name", .string "pgelastic"), ("cluster_name", .string clusterName),
     ("cluster_uuid", .string clusterUuid),
     ("version", .ofMembers
       [("number", .string "5.6.0"), ("build_hash", .string "0.3.0"),
        ("build_snapshot", .bool false), ("lucene_version", .string "6.6.1")]),
     ("tagline", .string "You Know, for Search")]

def written (index type : String) (d : Document) : Response :=
  let r := WriteEnvelope.ofDocument index type d
  .json (if r.created then 201 else 200) r.toJson

def found (index type id : String) (d : Option Document) : Response :=
  .json (if d.isSome then 200 else 404) (ReadEnvelope.ofDocument? index type id d).toJson

def bulk (scope : Scope String) (text : String) : RestM Response := do
  let r ← RestM.store (Bulk.process text scope.defaults.1 scope.defaults.2)
  return .json 200 r.toJson

def search (scope : Scope String) (text : String) : RestM Response := do
  let request ← searchOf text
  let r ← RestM.store (Search.run scope.patterns.1 scope.patterns.2 request)
  return .json 200 r.toJson

-- Creates an index with the body as its options, and then the types under `mappings` in the order
-- of their names.
def createIndex (index text : String) : RestM Response := do
  let options ← valueOf text
  let _ ← RestM.store (Store.createIndex index text)
  let mappings := ((options.bind (·.get? "mappings")).bind (·.object?)).getD []
  for m in mappings do
    let _ ← RestM.store (Store.createType index m.1 m.2.text)
  return .json 200 (IndexEnvelope.mk true true index).toJson

def indexExists (index : String) : RestM Response := do
  return .bare (if (← RestM.store (Store.getIndex index)).isSome then 200 else 404)

def putMapping (index type text : String) : RestM Response := do
  let _ ← valueOf text
  if (← RestM.store (Store.getType index type)).isSome then
    let _ ← RestM.store (Store.replaceTypeOptions index type text)
  else
    let _ ← RestM.store (Store.createType index type text)
  return .json 200 (Acknowledged.mk true).toJson

def mappingOf (options : String) : Json := (Json.parse? options).getD (.object [])

def getMapping (index type : String) : RestM Response := do
  match ← RestM.store (Store.getType index type) with
  | some record =>
      let mappings : Json := .object [("mappings", .object [(type, mappingOf record.options)])]
      return .json 200 (.object [(index, mappings)])
  | none => throw (.noSuchType index type)

def createDocument (index type text : String) : RestM Response := do
  let source ← documentOf text
  return written index type (← RestM.store (Store.createDocument index type source none))

def putDocument (index type id text : String) : RestM Response := do
  let source ← documentOf text
  if ← RestM.store (Store.documentExists index type id) then
    return written index type (← RestM.store (Store.updateDocument index type source id))
  else
    return written index type (← RestM.store (Store.createDocument index type source (some id)))

def getDocument (index type id : String) : RestM Response := do
  return found index type id (← RestM.store (Store.getDocument index type id))

def deleteDocument (index type id : String) : RestM Response := do
  return found index type id (← RestM.store (Store.deleteDocument index type id))

namespace Service

def perform (s : Service) (body : Body) : Operation String → RestM Response
  | .info => return .json 200 (rootInfo s.clusterUuid)
  | .health => return .json 200 Health.singleNode.toJson
  | .bulk scope => do bulk scope (← body.read s.bodyLimit)
  | .search scope => do search scope (← body.read s.bodyLimit)
  | .createIndex i => do createIndex i (← body.read s.bodyLimit)
  | .indexExists i => indexExists i
  | .putMapping i t => do putMapping i t (← body.read s.bodyLimit)
  | .getMapping i t => getMapping i t
  | .createDocument i t => do createDocument i t (← body.read s.bodyLimit)
  | .putDocument i t d => do putDocument i t d (← body.read s.bodyLimit)
  | .getDocument i t d => getDocument i t d
  | .deleteDocument i t d => deleteDocument i t d

-- The response to a request. A path that leads nowhere comes before a verb that does not apply,
-- and that before a name that cannot be decoded.
def respond (s : Service) (q : Request) : StateT KnownRelations (Dialogue Storage) Response :=
  match Resource.ofPath? q.path with
  | none => return .bare 404
  | some resource =>
      match Operation.of? q.verb resource with
      | none => return .bare 405
      | some operation =>
          match operation.decode with
          | .error noun => return .undecodable noun
          | .ok operation => do
              match ← (s.perform q.body operation).run with
              | .ok response => return response
              | .error refusal => return .refused refusal

def serve (s : Service) (q : Request) : StateT KnownRelations (Dialogue Storage) Response := do
  let response ← s.respond q
  return if q.verb = .head then response.withoutContent else response

def serveWith {m : Type → Type} [Monad m] (s : Service)
    (answer : (r : Storage.Request) → m (Storage.Reply r)) (q : Request) (g : KnownRelations) :
    m (Response × KnownRelations) :=
  (s.serve q g).run answer

end Service

end SearchStore.Rest

import SearchStore.Predicate.Basic
import SearchStore.Store.KnownRelations

/-!
The operations of the document store. Indices and types come into being on first write. A document
has version one when it is created, and one more after every update.
-/

set_option autoImplicit false

namespace SearchStore.Store

def createCatalog : StoreM Unit := StoreM.ask .createCatalog

def createIndex (name options : String) : StoreM IndexEntry := do
  checkIndexName name
  match ← StoreM.ask (.insertIndex name options) with
  | some entry => return entry
  | none => throw (.illegalOperation .indexExists)

def getIndex (name : String) : StoreM (Option IndexEntry) := StoreM.ask (.fetchIndex name)

def findIndices (pattern : String) : StoreM (List String) :=
  StoreM.ask (.listIndices (.ofWildcard pattern))

def createType (index name options : String) : StoreM TypeEntry := do
  match (← KnownRelations.establish index name options).2 with
  | .created entry => return entry
  | .existing _ => throw (.illegalOperation .typeExists)

def getType (index name : String) : StoreM (Option TypeEntry) :=
  StoreM.ask (.fetchType index name)

def replaceTypeOptions (index name options : String) : StoreM TypeEntry := do
  match ← StoreM.ask (.storeTypeOptions index name options) with
  | some entry => return entry
  | none => throw (.illegalOperation .noSuchType)

def findTypes (index pattern : String) : StoreM (List String) :=
  StoreM.ask (.listTypes index (.ofWildcard pattern))

def createDocument (index type : String) (source : Json) (id : Option String) :
    StoreM Document := do
  let id := id.filter (· ≠ "")
  if let some id := id then checkId id
  let relation ← KnownRelations.obtain index type
  match ← StoreM.ask (.insertDocument relation id source) with
  | some d => return d
  | none =>
      match id with
      | some id => throw (.illegalOperation (.documentExists id))
      | none => throw (.internal .nothingInserted)

def relation? (index type : String) : StoreM (Option Relation) :=
  match Relation.ofNames index type with
  | .ok _ => KnownRelations.lookUp index type
  | .error _ => return none

def getDocument (index type id : String) : StoreM (Option Document) := do
  if id = "" then return none
  match ← relation? index type with
  | some relation => StoreM.ask (.fetchDocument relation id)
  | none => return none

def documentExists (index type id : String) : StoreM Bool := do
  return (← getDocument index type id).isSome

def updateDocument (index type : String) (source : Json) (id : String) : StoreM Document := do
  if id = "" then throw (.illegalOperation (.noSuchDocument id))
  match ← relation? index type with
  | some relation =>
      match ← StoreM.ask (.replaceDocument relation id source) with
      | some d => return d
      | none => throw (.illegalOperation (.noSuchDocument id))
  | none => throw (.illegalOperation (.noSuchDocument id))

def deleteDocument (index type id : String) : StoreM (Option Document) := do
  if id = "" then return none
  match ← relation? index type with
  | some relation => StoreM.ask (.removeDocument relation id)
  | none => return none

def select (index type : String) (predicate : Predicate) : StoreM (List Document) := do
  match ← relation? index type with
  | some relation => StoreM.ask (.selectDocuments relation predicate)
  | none => return []

end SearchStore.Store

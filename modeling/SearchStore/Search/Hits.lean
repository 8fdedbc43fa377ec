import SearchStore.Envelope.Basic
import SearchStore.Query.Compile
import SearchStore.Search.Request
import SearchStore.Store.Operations

/-!
The hits of a search in all types whose index and name match a pair of wildcard patterns, in the
order of index and type. The query is compiled for each type on its own, for its mapping is that
type's.
-/

set_option autoImplicit false

namespace SearchStore

namespace Search

def predicateFor (request : SearchRequest) (index type : String) : StoreM Predicate := do
  match request.query with
  | none => return .matchAll
  | some query =>
      let entry ← Store.getType index type
      let options := (entry.map (·.options)).getD ""
      Query.compileJson query (.ofOptions type options)

def hitsOf (request : SearchRequest) (index type : String) : StoreM (List Hit) := do
  let predicate ← predicateFor request index type
  let documents ← Store.select index type predicate
  return documents.map (Hit.ofDocument index type)

def hitsIn (request : SearchRequest) (typePattern index : String) : StoreM (List (List Hit)) := do
  let types ← Store.findTypes index typePattern
  types.mapM (hitsOf request index)

-- A search that finds no type to look into is refused.
def run (indexPattern typePattern : String) (request : SearchRequest) : StoreM SearchEnvelope := do
  let indices ← Store.findIndices indexPattern
  let hits := (← indices.mapM (hitsIn request typePattern)).flatten
  if hits.isEmpty then throw (.illegalOperation .nothingToSearch)
  return .page hits.flatten request.offset request.limit 0

end Search

end SearchStore

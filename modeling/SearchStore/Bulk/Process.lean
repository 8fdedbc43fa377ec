import SearchStore.Bulk.Action
import SearchStore.Envelope.Basic
import SearchStore.Store.Operations

/-!
Running bulk requests. The body is read as a whole before anything happens; then the actions run in
order. A recoverable failure becomes the item of its action, any other ends the request.
-/

set_option autoImplicit false

namespace SearchStore.Bulk

def putItem (a : Bulk.Action) (d : Document) : ItemEnvelope :=
  let r := WriteEnvelope.ofDocument a.index a.type d
  ⟨a.kind, .put r, if r.created then 201 else 200⟩

def execute (a : Bulk.Action) : StoreM ItemEnvelope := do
  let id := a.id.getD ""
  let source := a.source.getD .null
  match a.kind with
  | .index =>
      if ← Store.documentExists a.index a.type id then
        return putItem a (← Store.updateDocument a.index a.type source id)
      else return putItem a (← Store.createDocument a.index a.type source a.id)
  | .create => return putItem a (← Store.createDocument a.index a.type source a.id)
  | .update => return putItem a (← Store.updateDocument a.index a.type source id)
  | .delete =>
      let removed ← Store.deleteDocument a.index a.type id
      return ⟨a.kind, .get (.ofDocument? a.index a.type id removed),
        if removed.isSome then 200 else 404⟩

def item (a : Bulk.Action) : StoreM ItemEnvelope :=
  tryCatch (execute a) fun e =>
    if e.isRecoverable then return ⟨a.kind, .failed (.ofError e a.index), e.status⟩ else throw e

def runAll (actions : List Bulk.Action) : StoreM BulkEnvelope := do
  let items ← actions.mapM item
  return ⟨0, items.any (·.isError), items⟩

def process (body : String) (index type : Option String) : StoreM BulkEnvelope := do
  runAll (← parse body index type)

end SearchStore.Bulk

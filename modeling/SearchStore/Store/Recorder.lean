import SearchStore.Store.InMemory

/-!
A storage in memory that records every request put to it and can be armed with faults. A fault lets
some requests of its kind through and then answers a number of them in place of the memory, with an
error or with nothing.
-/

set_option autoImplicit false

namespace SearchStore

inductive Method where
  | createCatalog
  | insertIndex
  | fetchIndex
  | listIndices
  | insertType
  | fetchType
  | storeTypeOptions
  | listTypes
  | insertDocument
  | fetchDocument
  | replaceDocument
  | removeDocument
  | selectDocuments
deriving DecidableEq, Repr

def Method.name : Method → String
  | .createCatalog => "initialize"
  | .insertIndex => "insert_index"
  | .fetchIndex => "fetch_index"
  | .listIndices => "list_indices"
  | .insertType => "insert_type"
  | .fetchType => "fetch_type"
  | .storeTypeOptions => "store_type_options"
  | .listTypes => "list_types"
  | .insertDocument => "insert_document"
  | .fetchDocument => "fetch_document"
  | .replaceDocument => "replace_document"
  | .removeDocument => "remove_document"
  | .selectDocuments => "select_documents"

def Method.all : List Method :=
  [.createCatalog, .insertIndex, .fetchIndex, .listIndices, .insertType, .fetchType,
   .storeTypeOptions, .listTypes, .insertDocument, .fetchDocument, .replaceDocument,
   .removeDocument, .selectDocuments]

def Method.ofName? (name : String) : Option Method := Method.all.find? (·.name == name)

def StorageRequest.method : StorageRequest → Method
  | .createCatalog => .createCatalog
  | .insertIndex _ _ => .insertIndex
  | .fetchIndex _ => .fetchIndex
  | .listIndices _ => .listIndices
  | .insertType _ _ => .insertType
  | .fetchType _ _ => .fetchType
  | .storeTypeOptions _ _ _ => .storeTypeOptions
  | .listTypes _ _ => .listTypes
  | .insertDocument _ _ _ => .insertDocument
  | .fetchDocument _ _ => .fetchDocument
  | .replaceDocument _ _ _ => .replaceDocument
  | .removeDocument _ _ => .removeDocument
  | .selectDocuments _ _ => .selectDocuments

structure Fault where
  method : Method
  error : Option Failure
  skip : Nat
  times : Nat
deriving DecidableEq, Repr

structure Recorder where
  memory : Memory
  calls : List StorageRequest
  faults : List Fault

namespace Recorder

def empty : Recorder := ⟨.empty, [], []⟩

def arm (r : Recorder) (f : Fault) : Recorder := { r with faults := r.faults ++ [f] }

-- Asks the faults in order. An exhausted one is passed over, one that still skips counts the
-- request and passes it on, and the first to answer ends the search.
def consult (method : Method) : List Fault → Option (Option Failure) × List Fault
  | [] => (none, [])
  | f :: rest =>
      if f.method = method ∧ 0 < f.times ∧ f.skip = 0 then
        (some f.error, { f with times := f.times - 1 } :: rest)
      else
        let (found, rest) := consult method rest
        if f.method = method ∧ 0 < f.times then (found, { f with skip := f.skip - 1 } :: rest)
        else (found, f :: rest)

def answer (r : Storage.Request) : StateM Recorder (Storage.Reply r) := fun s =>
  let calls := s.calls ++ [r]
  match consult (StorageRequest.method r) s.faults with
  | (some (some e), faults) => (.error e, { s with calls, faults })
  | (some none, faults) => (.ok r.nothing, { s with calls, faults })
  | (none, faults) =>
      let (a, memory) := s.memory.serve r
      (.ok a, ⟨memory, calls, faults⟩)

end Recorder

end SearchStore

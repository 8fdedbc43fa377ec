import SearchStore.Dialogue
import SearchStore.Json.Value
import SearchStore.Predicate.Basic
import SearchStore.Store.Name
import SearchStore.Text.Pattern

/-!
What a storage is asked to do. A write that a uniqueness rule or a missing row prevents is answered
with nothing; the store decides which error that is.
-/

set_option autoImplicit false

namespace SearchStore

structure IndexEntry where
  name : String
  options : String
deriving DecidableEq, Repr

structure TypeEntry where
  name : String
  index : String
  options : String
deriving DecidableEq, Repr

structure Document where
  id : String
  source : Json
  version : Int
deriving DecidableEq

inductive StorageRequest where
  | createCatalog
  | insertIndex (name options : String)
  | fetchIndex (name : String)
  | listIndices (pattern : Pattern)
  | insertType (relation : Relation) (options : String)
  | fetchType (index name : String)
  | storeTypeOptions (index name options : String)
  | listTypes (index : String) (pattern : Pattern)
  | insertDocument (relation : Relation) (id : Option String) (source : Json)
  | fetchDocument (relation : Relation) (id : String)
  | replaceDocument (relation : Relation) (id : String) (source : Json)
  | removeDocument (relation : Relation) (id : String)
  | selectDocuments (relation : Relation) (predicate : Predicate)

namespace StorageRequest

abbrev Answer : StorageRequest → Type
  | .createCatalog => Unit
  | .insertIndex _ _ => Option IndexEntry
  | .fetchIndex _ => Option IndexEntry
  | .listIndices _ => List String
  | .insertType _ _ => Option TypeEntry
  | .fetchType _ _ => Option TypeEntry
  | .storeTypeOptions _ _ _ => Option TypeEntry
  | .listTypes _ _ => List String
  | .insertDocument _ _ _ => Option Document
  | .fetchDocument _ _ => Option Document
  | .replaceDocument _ _ _ => Option Document
  | .removeDocument _ _ => Option Document
  | .selectDocuments _ _ => List Document

def nothing : (r : StorageRequest) → r.Answer
  | .createCatalog => ()
  | .insertIndex _ _ => none
  | .fetchIndex _ => none
  | .listIndices _ => []
  | .insertType _ _ => none
  | .fetchType _ _ => none
  | .storeTypeOptions _ _ _ => none
  | .listTypes _ _ => []
  | .insertDocument _ _ _ => none
  | .fetchDocument _ _ => none
  | .replaceDocument _ _ _ => none
  | .removeDocument _ _ => none
  | .selectDocuments _ _ => []

end StorageRequest

abbrev Storage : Interface where
  Request := StorageRequest
  Reply r := Except Failure r.Answer

end SearchStore

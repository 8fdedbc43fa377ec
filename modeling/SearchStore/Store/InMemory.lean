import SearchStore.Keyed
import SearchStore.Predicate.Matching
import SearchStore.Store.Table

/-!
A storage in memory. The catalog lists indices by name and types by index and name, and each
relation has a table, which is found by its name.
-/

set_option autoImplicit false

namespace SearchStore

structure Memory where
  indices : Keyed IndexEntry
  types : List TypeEntry
  tables : Keyed Table

namespace Memory

def empty : Memory := ⟨[], [], []⟩

def index? (m : Memory) (name : String) : Option IndexEntry := Keyed.find? m.indices name

def type? (m : Memory) (index name : String) : Option TypeEntry :=
  m.types.find? fun t => t.index == index && t.name == name

def table? (m : Memory) (r : Relation) : Option Table := Keyed.find? m.tables r.table

def table (m : Memory) (r : Relation) : Table := (m.table? r).getD .empty

def setTable (m : Memory) (r : Relation) (t : Table) : Memory :=
  { m with tables := Keyed.insert m.tables r.table t }

def typeBefore (a b : TypeEntry) : Bool :=
  Text.before a.index b.index || a.index == b.index && Text.before a.name b.name

def insertType (entry : TypeEntry) : List TypeEntry → List TypeEntry
  | [] => [entry]
  | t :: rest => if typeBefore entry t then entry :: t :: rest else t :: insertType entry rest

def setOptions (index name options : String) (t : TypeEntry) : TypeEntry :=
  if t.index == index && t.name == name then { t with options } else t

def insertDocument (m : Memory) (r : Relation) (id : Option String) (source : Json) :
    Option Document × Memory :=
  let t := m.table r
  match id with
  | some id =>
      let d : Document := ⟨id, source, 1⟩
      if t.hasId id then (none, m.setTable r t) else (some d, m.setTable r (t.insert d))
  | none =>
      let n := t.nextFree
      let d : Document := ⟨toString n, source, 1⟩
      (some d, m.setTable r { t.insert d with drawn := n })

def serve (m : Memory) : (r : StorageRequest) → r.Answer × Memory
  | .createCatalog => ((), m)
  | .insertIndex name options =>
      let entry : IndexEntry := ⟨name, options⟩
      if (m.index? name).isSome then (none, m)
      else (some entry, { m with indices := Keyed.insert m.indices name entry })
  | .fetchIndex name => (m.index? name, m)
  | .listIndices pattern => ((Keyed.keys m.indices).filter pattern.accepts, m)
  | .insertType relation options =>
      let entry : TypeEntry := ⟨relation.type, relation.index, options⟩
      if (m.type? relation.index relation.type).isSome then (none, m)
      else
        (some entry,
          { m with types := insertType entry m.types }.setTable relation (m.table relation))
  | .fetchType index name => (m.type? index name, m)
  | .storeTypeOptions index name options =>
      let types := m.types.map (setOptions index name options)
      let m := { m with types }
      (m.type? index name, m)
  | .listTypes index pattern =>
      (((m.types.filter fun t => t.index == index && pattern.accepts t.name).map (·.name)), m)
  | .insertDocument relation id source => m.insertDocument relation id source
  | .fetchDocument relation id => ((m.table relation).find? id, m)
  | .replaceDocument relation id source =>
      match (m.table relation).find? id with
      | some d =>
          let d : Document := { d with source, version := d.version + 1 }
          (some d, m.setTable relation ((m.table relation).replace d))
      | none => (none, m)
  | .removeDocument relation id =>
      match (m.table relation).find? id with
      | some d => (some d, m.setTable relation ((m.table relation).erase id))
      | none => (none, m)
  | .selectDocuments relation predicate =>
      ((m.table relation).rows.filter fun d => predicate.matchesSource d.source, m)

def answer (r : Storage.Request) : StateM Memory (Storage.Reply r) := fun m =>
  let (a, m) := m.serve r
  (.ok a, m)

end Memory

end SearchStore

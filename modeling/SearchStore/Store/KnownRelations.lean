import SearchStore.Store.Storage

/-!
What a store remembers from one operation to the next: relations known to exist. A relation is noted
once the storage has reported its type; relations are never dropped, so what is noted stays true.
-/

set_option autoImplicit false

namespace SearchStore

structure KnownRelations where
  relations : List Relation
deriving DecidableEq, Repr

namespace KnownRelations

def empty : KnownRelations := ⟨[]⟩

def find? (g : KnownRelations) (index type : String) : Option Relation :=
  g.relations.find? fun r => r.index == index && r.type == type

def insert (g : KnownRelations) (r : Relation) : KnownRelations :=
  if (g.find? r.index r.type).isSome then g else ⟨g.relations ++ [r]⟩

end KnownRelations

-- Operations of the store: they may fail, note relations, and put requests to a storage. What they
-- have noted outlives a failure.
abbrev StoreM := ExceptT Failure (StateT KnownRelations (Dialogue Storage))

namespace StoreM

def ask (r : StorageRequest) : StoreM r.Answer :=
  fun g => .ask (I := Storage) r fun reply => .done (reply, g)

def runWith {α : Type} {m : Type → Type} [Monad m]
    (answer : (r : Storage.Request) → m (Storage.Reply r)) (op : StoreM α) (g : KnownRelations) :
    m (Except Failure α × KnownRelations) :=
  (op g).run answer

end StoreM

namespace KnownRelations

def note (r : Relation) : StoreM Relation := do
  modifyThe KnownRelations (·.insert r)
  return ((← getThe KnownRelations).find? r.index r.type).getD r

def lookUp (index type : String) : StoreM (Option Relation) := do
  match (← getThe KnownRelations).find? index type with
  | some r => return some r
  | none =>
      let r ← Relation.ofNames index type
      match ← StoreM.ask (.fetchType index type) with
      | some _ => return some (← note r)
      | none => return none

inductive Creation where
  | created (entry : TypeEntry)
  | existing (entry : TypeEntry)
deriving DecidableEq, Repr

def establish (index type options : String) : StoreM (Relation × Creation) := do
  let r ← Relation.ofNames index type
  let _ ← StoreM.ask (.insertIndex index "")
  match ← StoreM.ask (.insertType r options) with
  | some entry => return (← note r, .created entry)
  | none =>
      match ← StoreM.ask (.fetchType index type) with
      | some entry => return (← note r, .existing entry)
      | none => throw (.internal (.typeUnreadable index type))

def obtain (index type : String) : StoreM Relation := do
  match ← lookUp index type with
  | some r => return r
  | none => return (← establish index type "").1

end KnownRelations

end SearchStore

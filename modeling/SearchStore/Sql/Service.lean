import SearchStore.Sql.Statement

/-!
How a database serves a storage. A command that fails fails the request. A type comes into being
with its sequence and its table in one transaction, which is rolled back unless all of them succeed.
-/

set_option autoImplicit false

namespace SearchStore.Sql

abbrev DatabaseM := ExceptT Failure (Dialogue Database)

def send (c : Command) : DatabaseM c.Answer :=
  ExceptT.mk (.ask (I := Database) c fun reply =>
    .done (reply.mapError fun text => .queryFailure (.database text)))

def rows (s : Statement) : DatabaseM (List s.Row) := send (.run s)

def row (s : Statement) : DatabaseM (Option s.Row) := do return (← rows s).head?

def execute (s : Statement) : DatabaseM Unit := do let _ ← rows s

-- A transaction that is abandoned is rolled back, and no one waits for what comes of that.
def abandon : DatabaseM Unit := ExceptT.mk (.ask (I := Database) .rollback fun _ => .done (.ok ()))

def orAbandon {α : Type} (d : DatabaseM α) : DatabaseM α :=
  tryCatch d fun e => do
    abandon
    throw e

-- A block of statements within a transaction, which is committed if the block gives something and
-- rolled back if it gives nothing. Once open, the transaction is abandoned at the first failure.
def transaction {α : Type} (block : DatabaseM (Option α)) : DatabaseM (Option α) := do
  send .begin
  orAbandon do
    match ← block with
    | some a => do
        send .commit
        return some a
    | none => do
        send .rollback
        return none

def insertType (r : Relation) (options : String) : DatabaseM (Option TypeEntry) :=
  transaction do
    match ← row (.insertType r options) with
    | none => return none
    | some record => do
        execute (.createSequence r)
        execute (.createTable r)
        return some record

def maxDraws : Nat := 16

def insertGenerated (r : Relation) (source : Json) : Nat → DatabaseM (Option Document)
  | 0 => throw (.queryFailure (.noFreeId r.table))
  | draws + 1 => do
      match ← row (.insertGenerated r source) with
      | some d => return some d
      | none => insertGenerated r source draws

def serve : (r : StorageRequest) → DatabaseM r.Answer
  | .createCatalog => do
      execute .createIndexTable
      execute .createTypeTable
  | .insertIndex name options => row (.insertIndex name options)
  | .fetchIndex name => row (.selectIndex name)
  | .listIndices pattern => rows (.listIndices pattern)
  | .insertType relation options => insertType relation options
  | .fetchType index name => row (.selectType index name)
  | .storeTypeOptions index name options => row (.updateType index name options)
  | .listTypes index pattern => rows (.listTypes index pattern)
  | .insertDocument relation (some id) source => row (.insertDocument relation id source)
  | .insertDocument relation none source => insertGenerated relation source maxDraws
  | .fetchDocument relation id => row (.selectDocument relation id)
  | .replaceDocument relation id source => row (.updateDocument relation id source)
  | .removeDocument relation id => row (.deleteDocument relation id)
  | .selectDocuments relation predicate => rows (.selectDocuments relation predicate)

def answer (r : Storage.Request) : Dialogue Database (Storage.Reply r) := (serve r).run

end SearchStore.Sql

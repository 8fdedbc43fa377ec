import SearchStore.Failure
import SearchStore.Store.Storage

/-!
The envelopes answers are given in.
-/

set_option autoImplicit false

namespace SearchStore

structure Shards where
  total : Nat
  failed : Nat
  successful : Nat
deriving DecidableEq, Repr

def Shards.single : Shards := ⟨1, 0, 1⟩

structure WriteEnvelope where
  shards : Shards
  index : String
  type : String
  id : String
  version : Int
  created : Bool
  result : String
deriving DecidableEq, Repr

def WriteEnvelope.ofDocument (index type : String) (d : Document) : WriteEnvelope :=
  let created := d.version == 1
  { shards := .single, index, type, id := d.id, version := d.version, created
    result := if created then "created" else "updated" }

structure ReadEnvelope where
  index : String
  type : String
  id : String
  version : Option Int
  found : Bool
  source : Option Json
deriving DecidableEq

def ReadEnvelope.ofDocument? (index type id : String) : Option Document → ReadEnvelope
  | some d => ⟨index, type, d.id, some d.version, true, some d.source⟩
  | none => ⟨index, type, id, none, false, none⟩

structure Hit where
  index : String
  type : String
  id : String
  score : Numeric.Rounded
  source : Json
deriving DecidableEq

def Hit.constantScore : Numeric.Rounded := Numeric.single.ofNat false 1

def Hit.ofDocument (index type : String) (d : Document) : Hit :=
  ⟨index, type, d.id, constantScore, d.source⟩

structure HitList where
  maxScore : Numeric.Rounded
  total : Nat
  hits : List Hit
deriving DecidableEq

structure SearchEnvelope where
  took : Nat
  timedOut : Bool
  shards : Shards
  hits : HitList
deriving DecidableEq

def zeroScore : Numeric.Rounded := .finite (Numeric.single.zero false)

def greaterScore (a b : Numeric.Rounded) : Numeric.Rounded := if a.less b then b else a

def SearchEnvelope.page (hits : List Hit) (offset limit took : Nat) : SearchEnvelope :=
  let shown := (hits.drop offset).take limit
  { took, timedOut := false, shards := .single
    hits :=
      { maxScore := (shown.map (·.score)).foldl greaterScore zeroScore
        total := hits.length, hits := shown } }

structure Cause where
  type : String
  reason : String
deriving DecidableEq, Repr

structure ErrorBody where
  type : String
  reason : String
  rootCause : List Cause
deriving DecidableEq, Repr

structure ErrorEnvelope where
  error : ErrorBody
  status : Nat
deriving DecidableEq, Repr

def ErrorEnvelope.ofParts (type reason : String) (status : Nat) : ErrorEnvelope :=
  ⟨⟨type, reason, [⟨type, reason⟩]⟩, status⟩

def ErrorEnvelope.ofError (e : Failure) : ErrorEnvelope :=
  .ofParts e.wireType e.reason e.status

structure ItemError where
  type : String
  reason : String
  index : String
  shard : String
  indexUuid : String
deriving DecidableEq, Repr

def ItemError.ofError (e : Failure) (index : String) : ItemError :=
  ⟨e.wireType, e.reason, index, "1", "1"⟩

inductive ItemOutcome where
  | put (r : WriteEnvelope)
  | get (r : ReadEnvelope)
  | failed (e : ItemError)
deriving DecidableEq

structure ItemEnvelope where
  kind : ActionKind
  outcome : ItemOutcome
  status : Nat
deriving DecidableEq

def ItemEnvelope.isError (i : ItemEnvelope) : Bool :=
  match i.outcome with
  | .failed _ => true
  | _ => false

structure BulkEnvelope where
  took : Nat
  errors : Bool
  items : List ItemEnvelope
deriving DecidableEq

structure IndexEnvelope where
  acknowledged : Bool
  shardsAcknowledged : Bool
  index : String
deriving DecidableEq, Repr

structure Acknowledged where
  acknowledged : Bool
deriving DecidableEq, Repr

structure Health where
  clusterName : String
  status : String
  timedOut : Bool
  nodes : Nat
  dataNodes : Nat
  activePrimaryShards : Nat
  activeShards : Nat
  relocatingShards : Nat
  initializingShards : Nat
  unassignedShards : Nat
  delayedUnassignedShards : Nat
  pendingTasks : Nat
  inFlightFetch : Nat
  taskMaxWaitingMillis : Nat
  activeShardsPercent : Numeric.Rounded
deriving DecidableEq, Repr

def clusterName : String := "pg_elastic_cluster"

def Health.singleNode : Health :=
  { clusterName := SearchStore.clusterName, status := "yellow", timedOut := false
    nodes := 1, dataNodes := 1, activePrimaryShards := 0, activeShards := 0
    relocatingShards := 0, initializingShards := 0, unassignedShards := 0
    delayedUnassignedShards := 0, pendingTasks := 0, inFlightFetch := 0, taskMaxWaitingMillis := 0
    activeShardsPercent := .finite (Numeric.double.zero false) }

end SearchStore

import SearchStore.Envelope.Basic

/-!
Envelopes as JSON values.
-/

set_option autoImplicit false

namespace SearchStore

def Shards.toJson (s : Shards) : Json :=
  .ofMembers [("total", .ofNat s.total), ("failed", .ofNat s.failed),
    ("successful", .ofNat s.successful)]

namespace WriteEnvelope

def members (r : WriteEnvelope) : List (String × Json) :=
  [("_shards", r.shards.toJson), ("_index", .string r.index), ("_type", .string r.type),
   ("_id", .string r.id), ("_version", .ofInt r.version), ("created", .bool r.created),
   ("result", .string r.result)]

def toJson (r : WriteEnvelope) : Json := .ofMembers r.members

end WriteEnvelope

namespace ReadEnvelope

def members (r : ReadEnvelope) : List (String × Json) :=
  [("_index", .string r.index), ("_type", .string r.type), ("_id", .string r.id),
   ("found", .bool r.found)]
    ++ (r.version.map fun v => ("_version", Json.ofInt v)).toList
    ++ (r.source.map fun s => ("_source", s)).toList

def toJson (r : ReadEnvelope) : Json := .ofMembers r.members

end ReadEnvelope

def Hit.toJson (h : Hit) : Json :=
  .ofMembers [("_index", .string h.index), ("_type", .string h.type), ("_id", .string h.id),
    ("_score", .ofRounded h.score), ("_source", h.source)]

def HitList.toJson (h : HitList) : Json :=
  .ofMembers [("max_score", .ofRounded h.maxScore), ("total", .ofNat h.total),
    ("hits", .array (h.hits.map (·.toJson)))]

def SearchEnvelope.toJson (r : SearchEnvelope) : Json :=
  .ofMembers [("took", .ofNat r.took), ("timed_out", .bool r.timedOut),
    ("_shards", r.shards.toJson), ("hits", r.hits.toJson)]

def Cause.toJson (c : Cause) : Json :=
  .ofMembers [("type", .string c.type), ("reason", .string c.reason)]

def ErrorBody.toJson (d : ErrorBody) : Json :=
  .ofMembers [("type", .string d.type), ("reason", .string d.reason),
    ("root_cause", .array (d.rootCause.map (·.toJson)))]

def ErrorEnvelope.toJson (r : ErrorEnvelope) : Json :=
  .ofMembers [("error", r.error.toJson), ("status", .ofNat r.status)]

def ItemError.toJson (e : ItemError) : Json :=
  .ofMembers [("type", .string e.type), ("reason", .string e.reason), ("index", .string e.index),
    ("shard", .string e.shard), ("index_uuid", .string e.indexUuid)]

def ItemOutcome.members : ItemOutcome → List (String × Json)
  | .put r => r.members
  | .get r => r.members
  | .failed e => [("error", e.toJson)]

def ItemEnvelope.toJson (i : ItemEnvelope) : Json :=
  .object [(i.kind.name, .ofMembers (i.outcome.members ++ [("status", .ofNat i.status)]))]

def BulkEnvelope.toJson (r : BulkEnvelope) : Json :=
  .ofMembers [("took", .ofNat r.took), ("errors", .bool r.errors),
    ("items", .array (r.items.map (·.toJson)))]

def IndexEnvelope.toJson (r : IndexEnvelope) : Json :=
  .ofMembers [("acknowledged", .bool r.acknowledged),
    ("shards_acknowledged", .bool r.shardsAcknowledged), ("index", .string r.index)]

def Acknowledged.toJson (r : Acknowledged) : Json :=
  .ofMembers [("acknowledged", .bool r.acknowledged)]

def Health.toJson (h : Health) : Json :=
  .ofMembers [("cluster_name", .string h.clusterName), ("status", .string h.status),
    ("timed_out", .bool h.timedOut), ("number_of_nodes", .ofNat h.nodes),
    ("number_of_data_nodes", .ofNat h.dataNodes),
    ("active_primary_shards", .ofNat h.activePrimaryShards),
    ("active_shards", .ofNat h.activeShards), ("relocating_shards", .ofNat h.relocatingShards),
    ("initializing_shards", .ofNat h.initializingShards),
    ("unassigned_shards", .ofNat h.unassignedShards),
    ("delayed_unassigned_shards", .ofNat h.delayedUnassignedShards),
    ("number_of_pending_tasks", .ofNat h.pendingTasks),
    ("number_of_in_flight_fetch", .ofNat h.inFlightFetch),
    ("task_max_waiting_in_queue_millis", .ofNat h.taskMaxWaitingMillis),
    ("active_shards_percent_as_number", .ofRounded h.activeShardsPercent)]

end SearchStore

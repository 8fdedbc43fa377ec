import SearchStore.Json.Decode
import SearchStore.Envelope.Basic

/-!
Reading envelopes back.
-/

set_option autoImplicit false

namespace SearchStore

open Json Json.Draft

def Shards.ofDraft? (d : Draft) : Option Shards := do
  match ← d.slots? ["total", "failed", "successful"] with
  | [total, failed, successful] =>
      some ⟨← total.required nat32?, ← failed.required nat32?, ← successful.required nat32?⟩
  | _ => none

def WriteEnvelope.ofDraft? (d : Draft) : Option WriteEnvelope := do
  match ← d.slots? ["_shards", "_index", "_type", "_id", "_version", "created", "result"] with
  | [shards, index, type, id, version, created, result] =>
      some
        { shards := ← shards.required Shards.ofDraft?, index := ← index.required string?
          type := ← type.required string?, id := ← id.required string?
          version := ← version.required int64?, created := ← created.required bool?
          result := ← result.required string? }
  | _ => none

def ReadEnvelope.ofDraft? (d : Draft) : Option ReadEnvelope := do
  match ← d.slots? ["_index", "_type", "_id", "_version", "found", "_source"] with
  | [index, type, id, version, found, source] =>
      some
        { index := ← index.required string?, type := ← type.required string?
          id := ← id.required string?, version := ← version.optional int64?
          found := ← found.required bool?, source := ← source.optional Draft.value? }
  | _ => none

def score? : Draft → Option Numeric.Rounded := Draft.real? Numeric.single

def Hit.ofDraft? (d : Draft) : Option Hit := do
  match ← d.slots? ["_index", "_type", "_id", "_score", "_source"] with
  | [index, type, id, score, source] =>
      some
        { index := ← index.required string?, type := ← type.required string?
          id := ← id.required string?, score := ← score.required score?
          source := ← source.required Draft.value? }
  | _ => none

def HitList.ofDraft? (d : Draft) : Option HitList := do
  match ← d.slots? ["max_score", "total", "hits"] with
  | [maxScore, total, hits] =>
      some ⟨← maxScore.required score?, ← total.required nat64?,
        ← hits.required (list? Hit.ofDraft?)⟩
  | _ => none

def SearchEnvelope.ofDraft? (d : Draft) : Option SearchEnvelope := do
  match ← d.slots? ["took", "timed_out", "_shards", "hits"] with
  | [took, timedOut, shards, hits] =>
      some ⟨← took.required nat64?, ← timedOut.required bool?,
        ← shards.required Shards.ofDraft?, ← hits.required HitList.ofDraft?⟩
  | _ => none

def Cause.ofDraft? (d : Draft) : Option Cause := do
  match ← d.slots? ["type", "reason"] with
  | [type, reason] => some ⟨← type.required string?, ← reason.required string?⟩
  | _ => none

def ErrorBody.ofDraft? (d : Draft) : Option ErrorBody := do
  match ← d.slots? ["type", "reason", "root_cause"] with
  | [type, reason, rootCause] =>
      some ⟨← type.required string?, ← reason.required string?,
        ← rootCause.required (list? Cause.ofDraft?)⟩
  | _ => none

def ErrorEnvelope.ofDraft? (d : Draft) : Option ErrorEnvelope := do
  match ← d.slots? ["error", "status"] with
  | [error, status] => some ⟨← error.required ErrorBody.ofDraft?, ← status.required nat16?⟩
  | _ => none

def ItemError.ofDraft? (d : Draft) : Option ItemError := do
  match ← d.slots? ["type", "reason", "index", "shard", "index_uuid"] with
  | [type, reason, index, shard, indexUuid] =>
      some ⟨← type.required string?, ← reason.required string?, ← index.required string?,
        ← shard.required string?, ← indexUuid.required string?⟩
  | _ => none

def failedItem? (d : Draft) : Option ItemError := do
  match ← d.objectSlots? ["error"] with
  | [error] => error.required ItemError.ofDraft?
  | _ => none

-- A write is tried first, then a read, then an error.
def ItemOutcome.ofDraft? (d : Draft) : Option ItemOutcome :=
  if d.isUsable then
    (WriteEnvelope.ofDraft? d).map .put <|> (ReadEnvelope.ofDraft? d).map .get
      <|> (failedItem? d).map .failed
  else none

def ActionKind.ofName? (name : String) : Option ActionKind :=
  [ActionKind.index, .create, .update, .delete].find? (·.name == name)

def ItemEnvelope.ofDraft? (d : Draft) : Option ItemEnvelope := do
  let (tag, content) ← d.tagged?
  let kind ← ActionKind.ofName? tag
  match content with
  | .object members =>
      let status ← memberSlot members "status"
      let outcome ← ItemOutcome.ofDraft? (.object (members.filter (·.1 != "status")))
      some ⟨kind, outcome, ← status.required nat16?⟩
  | _ => none

def BulkEnvelope.ofDraft? (d : Draft) : Option BulkEnvelope := do
  match ← d.slots? ["took", "errors", "items"] with
  | [took, errors, items] =>
      some ⟨← took.required nat64?, ← errors.required bool?,
        ← items.required (list? ItemEnvelope.ofDraft?)⟩
  | _ => none

def IndexEnvelope.ofDraft? (d : Draft) : Option IndexEnvelope := do
  match ← d.slots? ["acknowledged", "shards_acknowledged", "index"] with
  | [acknowledged, shardsAcknowledged, index] =>
      some ⟨← acknowledged.required bool?, ← shardsAcknowledged.required bool?,
        ← index.required string?⟩
  | _ => none

def Acknowledged.ofDraft? (d : Draft) : Option Acknowledged := do
  match ← d.slots? ["acknowledged"] with
  | [acknowledged] => some ⟨← acknowledged.required bool?⟩
  | _ => none

def Health.ofDraft? (d : Draft) : Option Health := do
  let fields :=
    ["cluster_name", "status", "timed_out", "number_of_nodes", "number_of_data_nodes",
     "active_primary_shards", "active_shards", "relocating_shards", "initializing_shards",
     "unassigned_shards", "delayed_unassigned_shards", "number_of_pending_tasks",
     "number_of_in_flight_fetch", "task_max_waiting_in_queue_millis",
     "active_shards_percent_as_number"]
  match ← d.slots? fields with
  | [name, status, timedOut, nodes, dataNodes, activePrimary, active, relocating, starting,
     unassigned, delayed, pending, inFlight, waiting, percent] =>
      some
        { clusterName := ← name.required string?, status := ← status.required string?
          timedOut := ← timedOut.required bool?, nodes := ← nodes.required nat32?
          dataNodes := ← dataNodes.required nat32?
          activePrimaryShards := ← activePrimary.required nat32?
          activeShards := ← active.required nat32?
          relocatingShards := ← relocating.required nat32?
          initializingShards := ← starting.required nat32?
          unassignedShards := ← unassigned.required nat32?
          delayedUnassignedShards := ← delayed.required nat32?
          pendingTasks := ← pending.required nat32?, inFlightFetch := ← inFlight.required nat32?
          taskMaxWaitingMillis := ← waiting.required nat64?
          activeShardsPercent := ← percent.required (Draft.real? Numeric.double) }
  | _ => none

end SearchStore

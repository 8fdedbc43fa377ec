import SearchStore.Json.Printer
import SearchStore.Migration.Source
import SearchStore.Envelope.Decode
import SearchStore.Url.Parse

/-!
A search cluster as a source, over its REST interface. Indices whose names start with a point belong
to the cluster itself and are left out. A reply that cannot be read counts as a failed connection.
-/

set_option autoImplicit false

namespace SearchStore.Migration

open Json

structure HttpRequest where
  method : String
  url : Url
  body : Option Json
deriving DecidableEq

inductive HttpReply where
  | unreachable
  | answered (status : Nat) (body : String)
deriving DecidableEq, Repr

abbrev Http : Interface where
  Request := HttpRequest
  Reply _ := HttpReply

abbrev HttpM := ExceptT SourceFault (Dialogue Http)

def fetch (method : String) (url : Url) (body : Option Json) : HttpM String := do
  if url.scheme = "http".toList ∨ url.scheme = "https".toList then
    let request : HttpRequest := ⟨method, { url with fragment := none }, body⟩
    let reply : HttpReply ← ExceptT.lift (.ask (I := Http) request .done)
    match reply with
    | .unreachable => throw .connection
    | .answered status text =>
        if 200 ≤ status ∧ status < 300 then return text else throw (.status status url.text)
  else throw .connection

def decode {α : Type} (read : Draft → Option α) (body : String) : HttpM α :=
  match (Draft.parse? body).bind read with
  | some a => return a
  | none => throw .connection

def indexName? (d : Draft) : Option String := do
  match ← d.slots? ["index"] with
  | [index] => index.required Draft.string?
  | _ => none

def isSystemIndex (name : String) : Bool := name.toList.head? == some '.'

def withoutSystem (names : List String) : List String :=
  (names.filter (!isSystemIndex ·)).mergeSort fun a b => !Text.before b a

-- The mappings of an index by type; a mapping that is not sorted by type is that of `_doc`.
def mappingsOf (index : String) (body : Json) : Except SourceFault (List (String × Json)) :=
  match ((body.get? index).bind (·.get? "mappings")).bind (·.object?) with
  | none => .error (.noMappings index)
  | some members =>
      if Keyed.contains members "properties" then
        .ok [(SourceDocument.defaultType, .object members)]
      else .ok members

def total? (d : Draft) : Option Nat :=
  if d.isUsable then
    Draft.nat64? d <|> do
      match ← d.objectSlots? ["value"] with
      | [value] => value.required Draft.nat64?
      | _ => none
  else none

def hits? (d : Draft) : Option (Nat × List SourceDocument) := do
  match ← d.slots? ["total", "hits"] with
  | [total, hits] =>
      some ((← total.omissible total?).getD 0,
        ← hits.withDefault [] (Draft.list? SourceDocument.ofDraft?))
  | _ => none

def ScrollPage.ofDraft? (d : Draft) : Option ScrollPage := do
  match ← d.slots? ["_scroll_id", "hits"] with
  | [scrollId, hits] =>
      let scrollId ← scrollId.optional Draft.string?
      let (total, hits) ← hits.required hits?
      some ⟨scrollId, total, hits⟩
  | _ => none

structure Cluster where
  base : Url
  batch : Nat
deriving DecidableEq, Repr

namespace Cluster

def hasScheme (host : List Char) : Bool :=
  match host with
  | [] => false
  | c :: rest => "://".toList.isPrefixOf (c :: rest) || hasScheme rest

def ofHost? (host : String) (batch : Nat) : Option Cluster := do
  let text := if hasScheme host.toList then host else "http://" ++ host
  some ⟨← Url.parse? text, max batch 1⟩

def name (c : Cluster) : String := c.base.text

def keepAlive : String := "1m"

def url (c : Cluster) (reference : String) : HttpM Url :=
  match Url.join? c.base reference with
  | some u => return u
  | none => throw .invalidUrl

def indexNames (c : Cluster) : HttpM (List String) := do
  let body ← fetch "GET" (← c.url "_cat/indices?format=json") none
  return withoutSystem (← decode (Draft.list? indexName?) body)

def typeMappings (c : Cluster) (index : String) : HttpM (List (String × Json)) := do
  let body ← fetch "GET" (← c.url (index ++ "/_mapping")) none
  mappingsOf index (← decode Draft.value? body)

def openScroll (c : Cluster) (index : String) : HttpM ScrollPage := do
  let url ← c.url (index ++ "/_search")
  let request : Json := .ofMembers [("size", .ofNat c.batch), ("sort", .array [.string "_doc"])]
  decode ScrollPage.ofDraft? (← fetch "POST" (url.withPair "scroll" keepAlive) (some request))

def nextPage (c : Cluster) (scrollId : String) : HttpM ScrollPage := do
  let url ← c.url "_search/scroll"
  let request : Json := .ofMembers [("scroll", .string keepAlive), ("scroll_id", .string scrollId)]
  decode ScrollPage.ofDraft? (← fetch "POST" url (some request))

def closeScroll (c : Cluster) (scrollId : String) : HttpM Unit := do
  let url ← c.url "_search/scroll"
  let request : Json := .ofMembers [("scroll_id", .array [.string scrollId])]
  let _ ← fetch "DELETE" url (some request)

def serve (c : Cluster) : (r : SourceRequest) → HttpM r.Answer
  | .indexNames => c.indexNames
  | .typeMappings index => c.typeMappings index
  | .openScroll index => c.openScroll index
  | .nextPage scrollId => c.nextPage scrollId
  | .closeScroll scrollId => c.closeScroll scrollId

def answer (c : Cluster) (r : Source.Request) : Dialogue Http (Source.Reply r) := (c.serve r).run

end Cluster

end SearchStore.Migration

import SearchStore.Json.Decode
import SearchStore.Envelope.Decode
import SearchStore.Store.Name
import SearchStore.Text.Blank

/-!
Bulk bodies. A body is a sequence of lines; blank lines count, and otherwise do not matter. An
action line says what is to be done to which document, and for every kind of action but `delete` the
next line that is not blank is the payload, whatever it looks like.
-/

set_option autoImplicit false

namespace SearchStore

open Json

structure Bulk.Action where
  kind : ActionKind
  index : String
  type : String
  id : Option String
  source : Option Json
deriving DecidableEq

def ActionKind.takesPayload : ActionKind → Bool
  | .delete => false
  | _ => true

def ActionKind.needsId : ActionKind → Bool
  | .update => true
  | .delete => true
  | _ => false

namespace Bulk

structure ActionHead where
  kind : ActionKind
  index : Option String
  type : Option String
  id : Option String
deriving DecidableEq, Repr

def id? : Draft → Option String
  | .string s => some s
  | .number n => some (String.ofList n.print)
  | _ => none

def ActionHead.ofDraft? (d : Draft) : Option ActionHead := do
  let (tag, content) ← d.tagged?
  let kind ← ActionKind.ofName? tag
  match ← content.slots? ["_index", "_type", "_id"] with
  | [index, type, id] =>
      some ⟨kind, ← index.omissible Draft.string?, ← type.omissible Draft.string?,
        ← id.omissible id?⟩
  | _ => none

def splitLines : List Char → List (List Char)
  | [] => [[]]
  | c :: rest =>
      if c = '\n' then [] :: splitLines rest
      else
        match splitLines rest with
        | line :: later => (c :: line) :: later
        | [] => [[c]]

def numberedFrom (n : Nat) : List (List Char) → List (Nat × List Char)
  | [] => []
  | line :: rest =>
      let line := Text.trim line
      if line.isEmpty then numberedFrom (n + 1) rest else (n, line) :: numberedFrom (n + 1) rest

def lines (body : String) : List (Nat × List Char) := numberedFrom 1 (splitLines body.toList)

def malformed {α : Type} (cause : Malformed) : Except Failure α := .error (.malformedInput cause)

def action (index type : Option String) (n : Nat) (line : List Char) :
    Except Failure Bulk.Action := do
  match (Draft.ofChars? line).bind ActionHead.ofDraft? with
  | none => malformed (.bulkAction n)
  | some a =>
      match a.index <|> index with
      | none => malformed (.bulkNoField a.kind .index)
      | some index =>
          match a.type <|> type with
          | none => malformed (.bulkNoField a.kind .type)
          | some type =>
              let id := a.id.filter (· ≠ "")
              if id.isNone && a.kind.needsId then malformed (.bulkNoField a.kind .id)
              else
                let _ ← Relation.ofNames index type
                if let some id := id then checkId id
                .ok ⟨a.kind, index, type, id, none⟩

def payload (n : Nat) (line : List Char) : Except Failure Json :=
  match (Draft.ofChars? line).bind (·.value?) with
  | some v => .ok v
  | none => malformed (.bulkSource n)

def actions (index type : Option String) : List (Nat × List Char) →
    Except Failure (List Bulk.Action)
  | [] => .ok []
  | (n, line) :: rest => do
      let a ← action index type n line
      if a.kind.takesPayload then
        match rest with
        | [] => malformed (.bulkNoSource a.kind n)
        | (k, source) :: rest =>
            let v ← payload k source
            let later ← actions index type rest
            .ok ({ a with source := some v } :: later)
      else
        let later ← actions index type rest
        .ok (a :: later)

def parse (body : String) (index type : Option String) : Except Failure (List Bulk.Action) :=
  actions index type (lines body)

end Bulk

end SearchStore

import SearchStore.Json.Printer
import SearchStore.Migration.Source
import SearchStore.Store.Operations

/-!
Copying all indices of a source into the store: the mappings of an index first, then its documents.
A failure of the source or of the catalog ends the copying; a document the store rejects is counted
and passed over. Scrolls are released whether their pages ended or failed.
-/

set_option autoImplicit false

namespace SearchStore.Migration

inductive MigrationError where
  | source (fault : SourceFault)
  | store (e : Failure)
  | pageBound
deriving DecidableEq, Repr

structure Summary where
  indices : Nat
  types : Nat
  documents : Nat
  failed : Nat
deriving DecidableEq, Repr

def Summary.zero : Summary := ⟨0, 0, 0, 0⟩

abbrev Parties : Interface := Source.both Storage

abbrev Copying := StateT KnownRelations (Dialogue Parties)

abbrev MigrationM := ExceptT MigrationError Copying

namespace Copying

def ask (r : SourceRequest) : Copying (Except SourceFault r.Answer) :=
  fun g => .ask (I := Parties) (.inl r) fun reply => .done (reply, g)

def store {α : Type} (op : StoreM α) : Copying (Except Failure α) := fun g => (op g).withSecond

end Copying

namespace MigrationM

def ask (r : SourceRequest) : MigrationM r.Answer :=
  ExceptT.mk (do return (← Copying.ask r).mapError .source)

def store {α : Type} (op : StoreM α) : MigrationM α :=
  ExceptT.mk (do return (← Copying.store op).mapError .store)

end MigrationM

def optionsText (type : String) (mapping : Json) : String :=
  Json.prettyText (.object [("mappings", .object [(type, mapping)])])

def copyMapping (index type : String) (mapping : Json) : StoreM Unit := do
  if (← Store.getType index type).isSome then
    let _ ← Store.replaceTypeOptions index type (optionsText type mapping)
  else
    let _ ← Store.createType index type (optionsText type mapping)

-- Hits without a source stand for empty documents.
def documentOf (source : Json) : Json := if source.isNull then .object [] else source

def copyHit (hit : SourceDocument) (s : Summary) : Copying Summary := do
  let created ← Copying.store
    (Store.createDocument hit.index hit.type (documentOf hit.source) (some hit.id))
  match created with
  | .ok _ => return { s with documents := s.documents + 1 }
  | .error _ => return { s with failed := s.failed + 1 }

def copyHits : List SourceDocument → Summary → Copying Summary
  | [], s => return s
  | hit :: rest, s => do copyHits rest (← copyHit hit s)

structure ScrollEnd where
  scrollId : Option String
  outcome : Except MigrationError Summary

-- Copies pages from the one at hand on, asking for at most so many others. A page without hits is
-- the last, and so is one without scroll id.
def copyPages : Nat → ScrollPage → Summary → Copying ScrollEnd
  | bound, page, s => do
      if page.hits.isEmpty then return ⟨page.scrollId, .ok s⟩
      else
        let s ← copyHits page.hits s
        match page.scrollId, bound with
        | none, _ => return ⟨none, .ok s⟩
        | some id, 0 => return ⟨some id, .error .pageBound⟩
        | some id, bound + 1 =>
            match ← Copying.ask (.nextPage id) with
            | .ok next => copyPages bound next s
            | .error fault => return ⟨some id, .error (.source fault)⟩

-- Releases a scroll; that this may fail is of no consequence.
def release : Option String → Copying Unit
  | some id => do let _ ← Copying.ask (.closeScroll id)
  | none => return ()

def copyDocuments (bound : Nat) (index : String) (s : Summary) : MigrationM Summary := do
  let page ← MigrationM.ask (.openScroll index)
  let finish : Copying (Except MigrationError Summary) := do
    let e ← copyPages bound page s
    release e.scrollId
    return e.outcome
  ExceptT.mk finish

def copyMappings (index : String) (s : Summary) : MigrationM Summary := do
  let mappings ← MigrationM.ask (.typeMappings index)
  for m in mappings do
    MigrationM.store (copyMapping index m.1 m.2)
  return { s with types := s.types + mappings.length }

def copyIndex (bound : Nat) (s : Summary) (index : String) : MigrationM Summary := do
  let s ← copyMappings index s
  let s ← copyDocuments bound index s
  return { s with indices := s.indices + 1 }

def run (bound : Nat) : MigrationM Summary := do
  let names ← MigrationM.ask .indexNames
  names.foldlM (copyIndex bound) .zero

def SourceFault.message : SourceFault → String
  | .connection => "Connection failed"
  | .status code url => "Source returned status " ++ toString code ++ " for " ++ url
  | .invalidUrl => "Invalid URL"
  | .json => "JSON error"
  | .noMappings index => "No mappings returned for index " ++ index

def MigrationError.message : MigrationError → String
  | .source fault => fault.message
  | .store e => "Store error: " ++ e.describe
  | .pageBound => "The source returned too many pages"

end SearchStore.Migration

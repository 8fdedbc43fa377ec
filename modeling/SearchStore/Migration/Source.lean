import SearchStore.Dialogue
import SearchStore.Json.Decode

/-!
Sources documents are copied from. A source lists its indices, the mappings of their types, and the
documents of an index page by page. A page may carry the id of a scroll, by which the next page is
asked for and which is to be released in the end.
-/

set_option autoImplicit false

namespace SearchStore.Migration

open Json

structure SourceDocument where
  index : String
  type : String
  id : String
  source : Json
deriving DecidableEq

def SourceDocument.defaultType : String := "_doc"

def SourceDocument.ofDraft? (d : Draft) : Option SourceDocument := do
  match ← d.slots? ["_index", "_type", "_id", "_source"] with
  | [index, type, id, source] =>
      some ⟨← index.required Draft.string?, ← type.withDefault defaultType Draft.string?,
        ← id.required Draft.string?, ← source.withDefault .null Draft.value?⟩
  | _ => none

structure ScrollPage where
  scrollId : Option String
  total : Nat
  hits : List SourceDocument
deriving DecidableEq

def ScrollPage.empty : ScrollPage := ⟨none, 0, []⟩

inductive SourceFault where
  | connection
  | status (code : Nat) (url : String)
  | invalidUrl
  | json
  | noMappings (index : String)
deriving DecidableEq, Repr

inductive SourceRequest where
  | indexNames
  | typeMappings (index : String)
  | openScroll (index : String)
  | nextPage (scrollId : String)
  | closeScroll (scrollId : String)
deriving DecidableEq, Repr

abbrev SourceRequest.Answer : SourceRequest → Type
  | .indexNames => List String
  | .typeMappings _ => List (String × Json)
  | .openScroll _ => ScrollPage
  | .nextPage _ => ScrollPage
  | .closeScroll _ => Unit

abbrev Source : Interface where
  Request := SourceRequest
  Reply r := Except SourceFault r.Answer

end SearchStore.Migration

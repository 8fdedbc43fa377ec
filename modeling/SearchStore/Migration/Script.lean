import SearchStore.Migration.Copy

/-!
A source that follows a script and records what it is asked. The pages of an index are given in
order; opening a scroll starts over with the first of them, and after the last come empty pages.
-/

set_option autoImplicit false

namespace SearchStore.Migration

structure Script where
  indices : Except SourceFault (List String)
  mappings : Keyed (Except SourceFault (List (String × Json)))
  scrolls : Keyed (List (Except SourceFault ScrollPage))
  close : Except SourceFault Unit

namespace Script

def pagesOf (s : Script) (index : String) : List (Except SourceFault ScrollPage) :=
  (Keyed.find? s.scrolls index).getD []

def mappingsOf (s : Script) (index : String) : Except SourceFault (List (String × Json)) :=
  (Keyed.find? s.mappings index).getD (.ok [])

def pageBound (s : Script) : Nat := (s.scrolls.map (·.2.length)).foldl max 0

end Script

structure ScriptedSource where
  script : Script
  calls : List SourceRequest
  -- The pages still to come in the scroll opened last.
  pages : List (Except SourceFault ScrollPage)

namespace ScriptedSource

def start (s : Script) : ScriptedSource := ⟨s, [], []⟩

def takePage : List (Except SourceFault ScrollPage) →
    Except SourceFault ScrollPage × List (Except SourceFault ScrollPage)
  | [] => (.ok .empty, [])
  | page :: rest => (page, rest)

def serve (s : ScriptedSource) : (r : SourceRequest) → Except SourceFault r.Answer × ScriptedSource
  | .indexNames => (s.script.indices, s)
  | .typeMappings index => (s.script.mappingsOf index, s)
  | .openScroll index =>
      let (page, pages) := takePage (s.script.pagesOf index)
      (page, { s with pages })
  | .nextPage _ =>
      let (page, pages) := takePage s.pages
      (page, { s with pages })
  | .closeScroll _ => (s.script.close, s)

def answer (r : Source.Request) : StateM ScriptedSource (Source.Reply r) := fun s =>
  serve { s with calls := s.calls ++ [r] } r

end ScriptedSource

def answerBoth {σ τ : Type} (source : (r : Source.Request) → StateM σ (Source.Reply r))
    (storage : (r : Storage.Request) → StateM τ (Storage.Reply r)) :
    (r : Parties.Request) → StateM (σ × τ) (Parties.Reply r)
  | .inl r => fun s =>
      let (reply, first) := (source r).run s.1
      (reply, (first, s.2))
  | .inr r => fun s =>
      let (reply, second) := (storage r).run s.2
      (reply, (s.1, second))

def runWith {σ τ : Type} (source : (r : Source.Request) → StateM σ (Source.Reply r))
    (storage : (r : Storage.Request) → StateM τ (Storage.Reply r)) (bound : Nat)
    (g : KnownRelations) :
    StateM (σ × τ) (Except MigrationError Summary × KnownRelations) :=
  (run bound g).run (answerBoth source storage)

end SearchStore.Migration

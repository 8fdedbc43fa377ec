import SearchStore.Json.Decode

/-!
Search requests: a query, and the page of hits that is asked for.
-/

set_option autoImplicit false

namespace SearchStore

structure SearchRequest where
  query : Option Json
  start : Option Nat
  size : Option Nat
deriving DecidableEq

namespace SearchRequest

def greatestSize : Nat := 10000

def defaultSize : Nat := 10

def all : SearchRequest := ⟨none, none, none⟩

def offset (r : SearchRequest) : Nat := r.start.getD 0

def limit (r : SearchRequest) : Nat := min (r.size.getD defaultSize) greatestSize

open Json in
def ofDraft? (d : Draft) : Option SearchRequest := do
  match ← d.slots? ["query", "from", "size"] with
  | [query, start, size] =>
      some ⟨← query.omissible Draft.value?, ← start.omissible Draft.nat64?,
        ← size.omissible Draft.nat64?⟩
  | _ => none

end SearchRequest

end SearchStore

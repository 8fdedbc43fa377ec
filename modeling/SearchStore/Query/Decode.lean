import SearchStore.Json.Decode
import SearchStore.Json.Printer
import SearchStore.Query.Basic

/-!
Reading queries. A query is an object with one member, whose key says what kind of query it is.
-/

set_option autoImplicit false

namespace SearchStore

open Json

def scalarText? : Draft → Option String
  | .string s => some s
  | .number n => some (String.ofList n.print)
  | .bool b => some (String.ofList (printBool b))
  | _ => none

def boost? : Draft → Option Numeric.Rounded := Draft.real? Numeric.single

namespace FieldQuery

def detailed? (d : Draft) : Option FieldQuery := do
  match ← d.objectSlots? ["query", "operator", "boost"] with
  | [query, operator, boost] =>
      some (.detailed (← query.required scalarText?) (← operator.omissible Draft.string?)
        (← boost.omissible boost?))
  | _ => none

-- Text alone is tried first. Both forms are tried on the whole of what is written, so none of it
-- may be unusable.
def ofDraft? (d : Draft) : Option FieldQuery :=
  if d.isUsable then
    match scalarText? d with
    | some s => some (.plain s)
    | none => detailed? d
  else none

end FieldQuery

def Clauses.ofDraft? (read : Draft → Option Query) (d : Draft) : Option Clauses :=
  if d.isUsable then
    match read d with
    | some q => some (.single q)
    | none => (d.list? read).map .many
  else none

def Clauses.ofSlot? (read : Draft → Option Query) (s : Draft.Slot) : Option Clauses :=
  (s.omissible (Clauses.ofDraft? read)).map (·.getD .absent)

namespace Query

def boolFields : List String :=
  ["must", "filter", "must_not", "should", "minimum_should_match", "boost"]

def boolOfDraft? (read : Draft → Option Query) (d : Draft) : Option Query := do
  guard (d.hasOnly boolFields)
  match ← d.slots? boolFields with
  | [must, filter, mustNot, should, minimum, boost] =>
      some (.bool (← Clauses.ofSlot? read must) (← Clauses.ofSlot? read filter)
        (← Clauses.ofSlot? read mustNot) (← Clauses.ofSlot? read should)
        (← minimum.omissible Draft.value?) (← boost.omissible boost?))
  | _ => none

def matchAllOfDraft? (d : Draft) : Option Query := do
  match ← d.slots? ["boost"] with
  | [boost] => some (.matchAll (← boost.omissible boost?))
  | _ => none

def ofDraftWithin : Nat → Draft → Option Query
  | 0, _ => none
  | depth + 1, d => do
      let (kind, content) ← d.tagged?
      if kind = "match_all" then matchAllOfDraft? content
      else if kind = "match" then (content.keyed? FieldQuery.ofDraft?).map (.matchFields .terms)
      else if kind = "match_phrase" then
        (content.keyed? FieldQuery.ofDraft?).map (.matchFields .phrase)
      else if kind = "bool" then boolOfDraft? (ofDraftWithin depth) content
      else none

def ofDraft? (d : Draft) : Option Query := ofDraftWithin d.depth d

def ofJson? (v : Json) : Option Query := ofDraft? (Draft.ofValue v)

end Query

end SearchStore

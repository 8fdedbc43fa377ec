import SearchStore.Json.Value
import SearchStore.Predicate.Basic

/-!
Queries as they are asked: match everything, match fields by words or by phrase, and combine
queries.
-/

set_option autoImplicit false

namespace SearchStore

inductive FieldQuery where
  | plain (text : String)
  | detailed (text : String) (operator : Option String) (boost : Option Numeric.Rounded)
deriving DecidableEq, Repr

def FieldQuery.text : FieldQuery → String
  | .plain s => s
  | .detailed s _ _ => s

mutual
inductive Query where
  | matchAll (boost : Option Numeric.Rounded)
  | matchFields (mode : Occurrence) (fields : Keyed FieldQuery)
  | bool (must filter mustNot should : Clauses) (minimumShouldMatch : Option Json)
      (boost : Option Numeric.Rounded)

inductive Clauses where
  | absent
  | single (q : Query)
  | many (qs : List Query)
end

def Clauses.toList : Clauses → List Query
  | .absent => []
  | .single q => [q]
  | .many qs => qs

end SearchStore

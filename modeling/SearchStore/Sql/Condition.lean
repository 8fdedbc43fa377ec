import SearchStore.Predicate.Basic

/-!
Predicates as SQL conditions. A condition is a run of pieces: fixed words and values. The values are
bound as parameters, numbered from one in the order they occur, and no value is part of the text.
-/

set_option autoImplicit false

namespace SearchStore.Sql

inductive Piece where
  | word (s : String)
  | value (s : String)
deriving DecidableEq, Repr

namespace Piece

def textFrom (n : Nat) : List Piece → String
  | [] => ""
  | .word s :: rest => s ++ textFrom n rest
  | .value _ :: rest => "$" ++ toString n ++ textFrom (n + 1) rest

def values : List Piece → List String
  | [] => []
  | .word _ :: rest => values rest
  | .value s :: rest => s :: values rest

end Piece

namespace Condition

def analyzer : Option String → List Piece
  | some a => [.value a, .word "::regconfig, "]
  | none => []

def queryFunction : Occurrence → String
  | .terms => "plainto_tsquery"
  | .phrase => "phraseto_tsquery"

def ofText (m : TextCondition) : List Piece :=
  .word "to_tsvector(" :: analyzer m.analyzer
    ++ [.word "document -> ", .value m.field, .word ") @@ ", .word (queryFunction m.mode),
      .word "("]
    ++ analyzer m.analyzer ++ [.value m.query, .word ")"]

def join (operator constant : String) : List (List Piece) → List Piece
  | [] => [.word constant]
  | c :: rest =>
      .word "(" :: c ++ rest.flatMap (fun d => .word operator :: d) ++ [.word ")"]

mutual
def ofPredicate : Predicate → List Piece
  | .matchAll => [.word "TRUE"]
  | .text m => ofText m
  | .and children => join " AND " "TRUE" (ofPredicates children)
  | .or children => join " OR " "FALSE" (ofPredicates children)

def ofPredicates : List Predicate → List (List Piece)
  | [] => []
  | p :: rest => ofPredicate p :: ofPredicates rest
end

end Condition

end SearchStore.Sql

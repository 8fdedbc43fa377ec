import SearchStore.Json.Value
import SearchStore.Predicate.Basic
import SearchStore.Text.Words

/-!
Text conditions on documents without a database: the words of all strings in a top-level member are
compared with the words of the query. Analyzers have no influence.
-/

set_option autoImplicit false

namespace SearchStore

mutual
def Json.strings : Json → List String
  | .string s => [s]
  | .array items => Json.itemStrings items
  | .object members => Json.memberStrings members
  | _ => []

def Json.itemStrings : List Json → List String
  | [] => []
  | v :: rest => Json.strings v ++ Json.itemStrings rest

def Json.memberStrings : List (String × Json) → List String
  | [] => []
  | (_, v) :: rest => Json.strings v ++ Json.memberStrings rest
end

namespace TextCondition

def wordsOf (v : Json) : List (List Char) := v.strings.flatMap fun s => Text.words s.toList

def occurs (phrase : List (List Char)) : List (List Char) → Bool
  | [] => phrase.isEmpty
  | w :: rest => phrase.isPrefixOf (w :: rest) || occurs phrase rest

def accepts (mode : Occurrence) (query words : List (List Char)) : Bool :=
  match mode with
  | .terms => query.all words.contains
  | .phrase => occurs query words

-- A query without words matches nothing, and neither does a document without the field.
def matchesSource (m : TextCondition) (source : Json) : Bool :=
  match source.get? m.field with
  | none => false
  | some value =>
      let query := Text.words m.query.toList
      if query.isEmpty then false else accepts m.mode query (wordsOf value)

end TextCondition

def Predicate.matchesSource (p : Predicate) (source : Json) : Bool :=
  p.holds fun m => m.matchesSource source

end SearchStore

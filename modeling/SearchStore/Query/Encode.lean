import SearchStore.Query.Basic

/-!
Queries as JSON values, with every option written out; an option that is not given is null.
-/

set_option autoImplicit false

namespace SearchStore

open Json

def FieldQuery.toJson : FieldQuery → Json
  | .plain s => .string s
  | .detailed s operator boost =>
      Json.ofMembers
        [("query", .string s), ("operator", Json.ofOption .string operator),
         ("boost", Json.ofOption Json.ofRounded boost)]

def matchKey : Occurrence → String
  | .terms => "match"
  | .phrase => "match_phrase"

mutual
def Query.toJson : Query → Json
  | .matchAll boost =>
      .object [("match_all", Json.ofMembers [("boost", Json.ofOption Json.ofRounded boost)])]
  | .matchFields mode fields =>
      .object [(matchKey mode, Json.ofMembers (fields.map fun f => (f.1, f.2.toJson)))]
  | .bool must filter mustNot should minimum boost =>
      .object [("bool", Json.ofMembers
        [("must", Clauses.toJson must), ("filter", Clauses.toJson filter),
         ("must_not", Clauses.toJson mustNot), ("should", Clauses.toJson should),
         ("minimum_should_match", Json.ofOption id minimum),
         ("boost", Json.ofOption Json.ofRounded boost)])]

def Clauses.toJson : Clauses → Json
  | .absent => .null
  | .single q => Query.toJson q
  | .many qs => .array (Query.listToJson qs)

def Query.listToJson : List Query → List Json
  | [] => []
  | q :: rest => Query.toJson q :: Query.listToJson rest
end

end SearchStore

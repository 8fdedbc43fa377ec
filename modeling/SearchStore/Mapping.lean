import SearchStore.Json.Parser

/-!
The mapping of a type: what its options say about fields. The options are a JSON text with the
fields under `properties`, at the top, under the name of the type, or under that name within
`mappings`; the first place that has them counts.
-/

set_option autoImplicit false

namespace SearchStore

structure FieldSpec where
  type : Option String
  analyzer : Option String
deriving DecidableEq, Repr

structure Mapping where
  fields : Keyed FieldSpec

namespace Mapping

def empty : Mapping := ⟨[]⟩

def properties? (type : String) (root : Json) : Option Json :=
  root.get? "properties"
    <|> (root.get? type).bind (·.get? "properties")
    <|> ((root.get? "mappings").bind (·.get? type)).bind (·.get? "properties")

def fieldOfJson (spec : Json) : FieldSpec :=
  { type := (spec.get? "type").bind (·.string?)
    analyzer := ((spec.get? "analyzer").bind (·.string?)).filter (· ≠ "") }

def ofJson (type : String) (root : Json) : Mapping :=
  match (properties? type root).bind (·.object?) with
  | some members => ⟨members.map fun m => (m.1, fieldOfJson m.2)⟩
  | none => empty

def ofOptions (type options : String) : Mapping :=
  match Json.parse? options with
  | some root => ofJson type root
  | none => empty

def field? (m : Mapping) (name : String) : Option FieldSpec := Keyed.find? m.fields name

def analyzer? (m : Mapping) (field : String) : Option String :=
  (m.field? field).bind (·.analyzer)

def isEmpty (m : Mapping) : Bool := m.fields.isEmpty

end Mapping

end SearchStore

import SearchStore.Migration.Copy
import SearchStore.Proofs.Json.Rereading
import SearchStore.Query.Compile

/-!
The options of a type are written in three ways: as the text of its mapping, as any text of the mapping
a client sends, and as the indented text of an object the mapping stands in under the name of the type.
All of them give queries the same fields, whatever the type is called. That object is nested deeper than
the mapping by two containers, and where this is too deep to be read the fields are lost.
-/

set_option autoImplicit false

namespace SearchStore

namespace Json

variable {f : Number → Number}

theorem find_with_numbers (members : List (String × Json)) (key : String) :
    Keyed.find? (membersWithNumbers f members) key = (Keyed.find? members key).map (withNumbers f) := by
  induction members with
  | nil => rfl
  | cons e rest ih =>
      obtain ⟨k, v⟩ := e
      rw [membersWithNumbers, Keyed.find?, Keyed.find?]
      split
      · rfl
      · exact ih

theorem get_with_numbers (v : Json) (key : String) : (v.withNumbers f).get? key = (v.get? key).map (withNumbers f) := by
  cases v with
  | object members => exact find_with_numbers members key
  | null | bool | number | string | array => rfl

theorem string_with_numbers (v : Json) : (v.withNumbers f).string? = v.string? := by
  cases v <;> rfl

theorem object_with_numbers (v : Json) : (v.withNumbers f).object? = v.object?.map (membersWithNumbers f) := by
  cases v <;> rfl

end Json

namespace Mapping

open Json

variable {f : Number → Number} {type : String} {m p root : Json}

def fieldsOf (properties : Json) : Keyed FieldSpec :=
  (properties.object?.getD []).map fun member => (member.1, fieldOfJson member.2)

theorem field_with_numbers (spec : Json) : fieldOfJson (spec.withNumbers f) = fieldOfJson spec := by
  have textUnder (key : String) :
      ((spec.withNumbers f).get? key).bind (·.string?) = (spec.get? key).bind (·.string?) := by
    rw [get_with_numbers, Option.bind_map]
    exact congrArg (spec.get? key).bind (funext string_with_numbers)
  rw [fieldOfJson, fieldOfJson, textUnder, textUnder]

theorem fields_with_numbers (properties : Json) : fieldsOf (properties.withNumbers f) = fieldsOf properties := by
  rw [fieldsOf, fieldsOf, object_with_numbers]
  cases properties.object? with
  | none => rfl
  | some members =>
      rw [Option.map_some, Option.getD_some, Option.getD_some, members_with_numbers, List.map_map]
      exact List.map_congr_left fun member _ => congrArg (Prod.mk member.1) (field_with_numbers member.2)

theorem of_properties (found : properties? type root = some p) : (ofJson type root).fields = fieldsOf p := by
  rw [ofJson, found, Option.bind_some, fieldsOf]
  cases p.object? <;> rfl

theorem properties_on_top (found : m.get? "properties" = some p) : properties? type m = some p := by
  rw [properties?, found]
  rfl

-- The value the migration puts a mapping in.
def wrapped (type : String) (m : Json) : Json := .object [("mappings", .object [(type, m)])]

-- The type may be called like one of the members that are looked for first.
theorem properties_of_wrapped (type : String) (m : Json) : properties? type (wrapped type m) = m.get? "properties" := by
  have onTop : (wrapped type m).get? "properties" = none := rfl
  have within : ((wrapped type m).get? "mappings").bind (·.get? type) = some m := by
    simp [wrapped, get?, Keyed.find?]
  have underType : ((wrapped type m).get? type).bind (·.get? "properties") = none := by
    by_cases called : type = "mappings"
    · subst called
      rfl
    · simp [wrapped, get?, Keyed.find?, Ne.symm called]
  rw [properties?, onTop, underType, within]
  rfl

theorem wrapped_nesting (type : String) (m : Json) : (wrapped type m).nesting = m.nesting + 2 := by
  simp [wrapped, nesting, nestingOfMembers]

theorem wrapped_canonical (type : String) (canonical : m.Canonical) : (wrapped type m).Canonical :=
  ⟨List.pairwise_singleton .., ⟨⟨List.pairwise_singleton .., ⟨canonical, trivial⟩⟩, trivial⟩⟩

theorem wrapped_legible (type : String) (legible : m.Legible) : (wrapped type m).Legible := by
  intro n member
  simp only [wrapped, numbers, numbersOfMembers, List.append_nil] at member
  exact legible n member

-- The options by which a type is declared to have a mapping. What is copied has to fit with all that is
-- written around it.
inductive Declares (type : String) (m : Json) : String → Prop where
  | listed : Declares type m m.text
  | sent {text : String} (read : Json.parse? text = some m) : Declares type m text
  | copied (fits : (wrapped type m).nesting ≤ depthLimit) : Declares type m (Migration.optionsText type m)

variable {options : String}

theorem options_of_text (read : Json.parse? options = some root) (found : properties? type root = some p) :
    (ofOptions type options).fields = fieldsOf p := by
  rw [ofOptions, read]
  exact of_properties found

theorem declared_fields (canonical : m.Canonical) (legible : m.Legible) (shallow : m.nesting ≤ depthLimit)
    (found : m.get? "properties" = some p) (declared : Declares type m options) :
    (ofOptions type options).fields = fieldsOf p := by
  have later : m.reread.get? "properties" = some (p.withNumbers fun n => n.reread.getD n) := by
    rw [reread, get_with_numbers, found]
    rfl
  cases declared with
  | listed =>
      rw [options_of_text (text_read legible canonical shallow) (properties_on_top later), fields_with_numbers]
  | sent read => exact options_of_text read (properties_on_top found)
  | copied fits =>
      have read : Json.parse? (Migration.optionsText type m) = some (wrapped type m.reread) :=
        pretty_text_read (wrapped_legible type legible) (wrapped_canonical type canonical) fits
      have inside : properties? type (wrapped type m.reread) = some (p.withNumbers fun n => n.reread.getD n) := by
        rw [properties_of_wrapped, later]
      rw [options_of_text read inside, fields_with_numbers]

theorem copied_too_deep (legible : m.Legible) (deep : depthLimit < (wrapped type m).nesting) :
    ofOptions type (Migration.optionsText type m) = empty := by
  have unread : Json.parse? (Migration.optionsText type m) = none :=
    pretty_text_unread (wrapped_legible type legible) deep
  rw [ofOptions, unread]

/-- Printed numbers are taken to be read as numbers again. Every way to declare a mapping gives one field for
each member under `properties`, and so the same predicate to every query, unless it is copied and what is
written around it makes it too deep. -/
theorem declarations_agree (type : String) (m p : Json) (canonical : m.Canonical) (legible : m.Legible)
    (shallow : m.nesting ≤ depthLimit) (found : m.get? "properties" = some p) :
    (∀ options, Declares type m options → (ofOptions type options).fields = fieldsOf p) ∧
    (∀ options options', Declares type m options → Declares type m options' →
      ofOptions type options = ofOptions type options' ∧
        ∀ q, Query.compile (ofOptions type options) q = Query.compile (ofOptions type options') q) ∧
    (depthLimit < m.nesting + 2 → ofOptions type (Migration.optionsText type m) = empty) := by
  have fields (options : String) (declared : Declares type m options) :=
    declared_fields canonical legible shallow found declared
  refine ⟨fields, fun options options' declared declared' => ?_, fun deep => ?_⟩
  · have same : ofOptions type options = ofOptions type options' :=
      congrArg Mapping.mk ((fields options declared).trans (fields options' declared').symm)
    exact ⟨same, fun q => by rw [same]⟩
  · rw [← wrapped_nesting type m] at deep
    exact copied_too_deep legible deep

def boostedFields : Json :=
  .object [("a", .object
    [("analyzer", .string "english"), ("boost", .number (.float ⟨false, 6755399441055744, -52⟩))])]

def boosted : Json := .object [("properties", boostedFields)]

theorem boosted_canonical : boosted.Canonical := by
  simp only [boosted, boostedFields, Canonical, CanonicalMembers, Keyed.Ordered, and_true]
  decide

theorem boosted_mappings_type_agrees :
    boosted.Canonical ∧ boosted.Legible ∧ boosted.nesting ≤ depthLimit ∧
      boosted.get? "properties" = some boostedFields ∧
      Declares "mappings" boosted boosted.text ∧
      Declares "mappings" boosted (Migration.optionsText "mappings" boosted) ∧
      (ofOptions "mappings" (Migration.optionsText "mappings" boosted)).fields = [("a", ⟨none, some "english"⟩)] ∧
      ofOptions "mappings" boosted.text = ofOptions "mappings" (Migration.optionsText "mappings" boosted) := by
  have legible : boosted.Legible := by decide +kernel
  have shallow : boosted.nesting ≤ depthLimit := by decide
  have found : boosted.get? "properties" = some boostedFields := rfl
  have copied : Declares "mappings" boosted (Migration.optionsText "mappings" boosted) := .copied (by decide)
  obtain ⟨fields, agree, _⟩ := declarations_agree "mappings" boosted boostedFields boosted_canonical legible shallow found
  exact ⟨boosted_canonical, legible, shallow, found, .listed, copied, fields _ copied, (agree _ _ .listed copied).1⟩

def nested : Nat → Json
  | 0 => .null
  | n + 1 => .array [nested n]

theorem nested_nesting (n : Nat) : (nested n).nesting = n := by
  induction n with
  | zero => rfl
  | succ n ih => simp [nested, nesting, nestingOfItems, ih]

theorem nested_numbers (n : Nat) : (nested n).numbers = [] := by
  induction n with
  | zero => rfl
  | succ n ih => simp [nested, numbers, numbersOfItems, ih]

theorem nested_canonical (n : Nat) : (nested n).Canonical := by
  induction n with
  | zero => trivial
  | succ n ih => exact ⟨ih, trivial⟩

def deepFields : Json := .object [("a", nested 124)]

def deepMapping : Json := .object [("properties", deepFields)]

theorem deep_nesting : deepMapping.nesting = 126 := by
  simp [deepMapping, deepFields, nesting, nestingOfMembers, nested_nesting]

theorem deep_mapping_lost_when_copied :
    deepMapping.Canonical ∧ deepMapping.Legible ∧ deepMapping.nesting ≤ depthLimit ∧
      deepMapping.get? "properties" = some deepFields ∧
      (ofOptions "t" deepMapping.text).fields = [("a", ⟨none, none⟩)] ∧
      (ofOptions "t" (Migration.optionsText "t" deepMapping)).fields = [] := by
  have canonical : deepMapping.Canonical :=
    ⟨List.pairwise_singleton .., ⟨⟨List.pairwise_singleton .., ⟨nested_canonical 124, trivial⟩⟩, trivial⟩⟩
  have legible : deepMapping.Legible := by
    intro n member
    simp [deepMapping, deepFields, numbers, numbersOfMembers, nested_numbers] at member
  have shallow : deepMapping.nesting ≤ depthLimit := by
    rw [deep_nesting]
    decide
  have found : deepMapping.get? "properties" = some deepFields := rfl
  have wide : depthLimit < (wrapped "t" deepMapping).nesting := by
    rw [wrapped_nesting, deep_nesting]
    decide
  refine ⟨canonical, legible, shallow, found, declared_fields canonical legible shallow found .listed, ?_⟩
  rw [copied_too_deep legible wide]
  rfl

end Mapping

end SearchStore

import Mathlib.Data.List.TakeWhile
import SearchStore.Proofs.Rest.Serving
import SearchStore.Proofs.Store.Operation
import SearchStore.Proofs.Text.Percent

/-!
Paths of three segments. However the names in a path are written, they are decoded as they are, and the
path leads to the resource of its segments. The characters of valid names stand for themselves.
-/

set_option autoImplicit false

namespace SearchStore

structure IsName (name : String) : Prop where
  filled : name.toList ≠ []
  characters : ∀ c ∈ name.toList, isNameChar c = true

theorem name_checked {noun name : String} (checked : checkName noun name = .ok ()) : IsName name := by
  rw [checkName] at checked
  split at checked
  · cases checked
  · rename_i filled
    split at checked
    · rename_i characters
      exact ⟨by simpa using filled, List.all_eq_true.mp characters⟩
    · cases checked

theorem index_name_checked {name : String} (checked : checkIndexName name = .ok ()) : IsName name := by
  cases named : checkName "index" name with
  | error e => simp [checkIndexName, named, bind, Except.bind] at checked
  | ok => exact name_checked named

theorem pair_checked {index type : String} {r : Relation} (valid : Relation.ofNames index type = .ok r) :
    IsName index ∧ IsName type := by
  rw [Relation.ofNames] at valid
  cases first : checkIndexName index with
  | error e => simp [first, bind, Except.bind] at valid
  | ok =>
      cases second : checkName "type" type with
      | error e => simp [first, second, bind, Except.bind] at valid
      | ok => exact ⟨index_name_checked first, name_checked second⟩

theorem name_plain {name : String} (named : IsName name) : name.toList.all Text.isPlain = true := by
  refine List.all_eq_true.mpr fun c member => Text.plain_iff.mpr ?_
  have apart (d : Char) (other : isNameChar d = false) : c ≠ d := by
    rintro rfl
    rw [named.characters c member] at other
    cases other
  exact ⟨apart '%' (by decide), apart '/' (by decide), apart '?' (by decide), apart '#' (by decide)⟩

theorem name_encodes {name : String} (named : IsName name) : Text.Encodes name.toList name.toList :=
  Text.encodes_itself (name_plain named)

namespace Rest

theorem encoding_decoded (noun : String) {name : String} {written : Segment} (encodes : Text.Encodes name.toList written) :
    decodeName noun written = .ok name := by
  rw [decodeName, Text.decode_encoding encodes]

theorem split_segment {s : List Char} (inside : ∀ c ∈ s, c ≠ '/') (rest : List Char) :
    Segment.split (s ++ '/' :: rest) = s :: Segment.split rest := by
  induction s with
  | nil => rfl
  | cons c later ih =>
      obtain ⟨here, others⟩ := List.forall_mem_cons.mp inside
      rw [List.cons_append, Segment.split, if_neg here, ih others]

theorem split_last {s : List Char} (inside : ∀ c ∈ s, c ≠ '/') : Segment.split s = [s] := by
  induction s with
  | nil => rfl
  | cons c later ih =>
      obtain ⟨here, others⟩ := List.forall_mem_cons.mp inside
      rw [Segment.split, if_neg here, ih others]

-- Neither a further segment nor the end of the path begins within the segment.
def Segment.Whole (s : Segment) : Prop := ∀ c ∈ s, c ≠ '/' ∧ c ≠ '?' ∧ c ≠ '#'

theorem whole_goes_on {s : Segment} (whole : s.Whole) : ∀ c ∈ s, (!Resource.endsPath c) = true := by
  intro c member
  obtain ⟨-, query, fragment⟩ := whole c member
  simp [Resource.endsPath, query, fragment]

theorem path_of_three {path : String} {a b c : Segment} (first : a.Whole) (second : b.Whole) (third : c.Whole)
    (characters : path.toList = '/' :: (a ++ '/' :: (b ++ '/' :: c))) :
    Resource.ofPath? path = Resource.ofThree a b c := by
  have goesOn : ∀ d ∈ '/' :: (a ++ '/' :: (b ++ '/' :: c)), (!Resource.endsPath d) = true := by
    have slash : (!Resource.endsPath '/') = true := by decide
    refine List.forall_mem_cons.mpr ⟨slash, List.forall_mem_append.mpr ⟨whole_goes_on first, ?_⟩⟩
    refine List.forall_mem_cons.mpr ⟨slash, List.forall_mem_append.mpr ⟨whole_goes_on second, ?_⟩⟩
    exact List.forall_mem_cons.mpr ⟨slash, whole_goes_on third⟩
  rw [Resource.ofPath?, characters, List.takeWhile_eq_self_iff.mpr goesOn]
  simp only
  rw [split_segment fun c member => (first c member).1, split_segment fun c member => (second c member).1,
    split_last fun c member => (third c member).1]
  rfl

def mappingPath (index type : String) : String := "/" ++ index ++ "/_mapping/" ++ type

theorem mapping_whole : Segment.mapping.Whole := Text.encoding_within (Text.encodes_itself (by decide))

variable {index type : String} (named : IsName index) (typed : IsName type)
include named typed

theorem mapping_resource :
    Resource.ofPath? (mappingPath index type) = some (.mapping index.toList type.toList) := by
  have characters : (mappingPath index type).toList =
      '/' :: (index.toList ++ '/' :: (Segment.mapping ++ '/' :: type.toList)) := by
    have literal : "/_mapping/".toList = '/' :: (Segment.mapping ++ ['/']) := by decide
    simp only [mappingPath, String.toList_append, literal, List.append_assoc, List.cons_append, List.nil_append]
    rfl
  rw [path_of_three (Text.encoding_within (name_encodes named)) mapping_whole (Text.encoding_within (name_encodes typed))
    characters]
  simp [Resource.ofThree, typed.filled]

theorem mapping_asked (body : Body) :
    Request.operation? ⟨.get, mappingPath index type, body⟩ = some (.getMapping index type) := by
  have applies : Operation.of? .get (Resource.mapping index.toList type.toList) = some (.getMapping index.toList type.toList) :=
    rfl
  have decoded : (Operation.getMapping index.toList type.toList).decode = .ok (.getMapping index type) := by
    rw [Operation.decode, decodeIndex, decodeType, encoding_decoded "index" (name_encodes named),
      encoding_decoded "type" (name_encodes typed)]
    rfl
  rw [Request.operation?, mapping_resource named typed, Option.bind_some, applies, Option.bind_some, decoded]
  rfl

end Rest

end SearchStore

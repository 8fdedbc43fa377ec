import SearchStore.Proofs.Sql.Objects
import SearchStore.Proofs.Store.Isolation

/-!
Names that stand for two things. Tables and sequences have their names from one space, which has the
tables of the catalog in it. A table has the name of a sequence, or of a table of the catalog, for the
pairs told here and no others. When no such pairs are in use, whatever is found under a name is what
the name was made for.
-/

set_option autoImplicit false

namespace SearchStore

-- The pair whose table has the name of the sequence of this one.
def Relation.numbering (q : Relation) : Relation := ⟨q.index, q.type ++ sequenceSuffix⟩

namespace Sql

open Server
open Store (Operation Overlaps InUse play same_table_iff_overlaps)

variable {used : Relation → Prop} {v : Server} {p q r : Relation}

theorem table_numbering (q : Relation) : q.numbering.table = q.sequence := by
  simp only [Relation.numbering, Relation.sequence, Relation.table, String.append_assoc]

theorem table_is_sequence_iff (p q : Relation) :
    p.table = q.sequence ↔ p = q.numbering ∨ Overlaps p q.numbering ∨ Overlaps q.numbering p := by
  rw [← table_numbering]
  by_cases same : p = q.numbering
  · simp [same]
  · rw [same_table_iff_overlaps same]
    simp [same]

theorem plain_table_iff {index type : String} (plainIndex : '_' ∉ index.toList) (plainType : '_' ∉ type.toList) :
    p.table = Relation.table ⟨index, type⟩ ↔ p = ⟨index, type⟩ := by
  refine ⟨fun shared => ?_, fun same => congrArg Relation.table same⟩
  by_contra different
  rcases (same_table_iff_overlaps different).mp shared with ⟨middle, indexed, -⟩ | ⟨middle, -, typed⟩
  · apply plainIndex
    rw [show index = p.index ++ "_" ++ middle from indexed]
    simp
  · apply plainType
    rw [show type = middle ++ "_" ++ p.type from typed]
    simp

theorem sequence_not_catalog (r : Relation) : r.sequence ≠ indexTable ∧ r.sequence ≠ typeTable := by
  have last : r.sequence.toList.getLast? = some 'q' := by
    rw [Relation.sequence, String.toList_append, List.getLast?_append]
    rfl
  constructor
  · intro same
    rw [same] at last
    exact absurd last (by decide)
  · intro same
    rw [same] at last
    exact absurd last (by decide)

-- No table of a relation in use has the name of a sequence or of a table of the catalog.
structure KindsApart (used : Relation → Prop) : Prop where
  sequences : ∀ p q, used p → used q → p.table ≠ q.sequence
  catalog : ∀ p, used p → p.table ≠ indexTable ∧ p.table ≠ typeTable

theorem in_use_iff {ops : List Operation} : InUse ops r ↔ r ∈ ops.filterMap Operation.created? := List.mem_filterMap.symm

theorem kinds_apart_alone {ops : List Operation} (p : Relation) (alone : ∀ r ∈ ops.filterMap Operation.created?, r = p)
    (catalog : p.table ≠ indexTable ∧ p.table ≠ typeTable) : KindsApart (InUse ops) where
  sequences q r left right := by
    rw [alone q (in_use_iff.mp left), alone r (in_use_iff.mp right)]
    exact table_sequence_apart p
  catalog q mine := by
    rw [alone q (in_use_iff.mp mine)]
    exact catalog

structure Unmistaken (used : Relation → Prop) (v : Server) : Prop where
  indices : ∀ o, v.object? indexTable = some o → ∃ rows, o = .indices rows
  types : ∀ o, v.object? typeTable = some o → ∃ rows, o = .types rows
  tables : ∀ r, used r → ∀ o, v.object? r.table = some o → ∃ rows, o = .documents r.sequence rows
  sequences : ∀ r, used r → ∀ o, v.object? r.sequence = some o → ∃ last, o = .sequence last
  provided : ∀ rows, v.object? typeTable = some (.types rows) → ∀ e ∈ rows, ∃ t, v.Keeps ⟨e.index, e.name⟩ t

theorem table_kind (apart : KindsApart used) (mine : used r) {k : Kind} (fits : k.Fits used r.table) :
    k = .documents r.sequence := by
  cases k with
  | indices => exact absurd fits (apart.catalog r mine).1
  | types => exact absurd fits.1 (apart.catalog r mine).2
  | documents generator =>
      obtain ⟨q, -, same, rfl⟩ := fits
      rw [Relation.sequence, Relation.sequence, same]
  | sequence =>
      obtain ⟨q, other, same⟩ := fits
      exact absurd same (apart.sequences r q mine other)

theorem sequence_kind (apart : KindsApart used) (mine : used r) {k : Kind} (fits : k.Fits used r.sequence) : k = .sequence := by
  cases k with
  | indices => exact absurd fits (sequence_not_catalog r).1
  | types => exact absurd fits.1 (sequence_not_catalog r).2
  | documents generator =>
      obtain ⟨q, other, same, -⟩ := fits
      exact absurd same.symm (apart.sequences q r other mine)
  | sequence => rfl

theorem catalog_kind (apart : KindsApart used) {name : String} (catalog : name = indexTable ∨ name = typeTable) {k : Kind}
    (fits : k.Fits used name) : name = indexTable ∧ k = .indices ∨ name = typeTable ∧ ∃ listed, k = .types listed := by
  cases k with
  | indices => exact Or.inl ⟨fits, rfl⟩
  | types listed => exact Or.inr ⟨fits.1, listed, rfl⟩
  | documents =>
      obtain ⟨q, mine, rfl, -⟩ := fits
      exact (catalog.elim (apart.catalog q mine).1 (apart.catalog q mine).2).elim
  | sequence =>
      obtain ⟨q, -, rfl⟩ := fits
      exact (catalog.elim (sequence_not_catalog q).1 (sequence_not_catalog q).2).elim

theorem object_of_indices {o : Object} (kind : o.kind = .indices) : ∃ rows, o = .indices rows := by
  cases o <;> cases kind
  exact ⟨_, rfl⟩

theorem object_of_types {o : Object} {listed : List Relation} (kind : o.kind = .types listed) : ∃ rows, o = .types rows := by
  cases o <;> cases kind
  exact ⟨_, rfl⟩

theorem object_of_documents {o : Object} {generator : String} (kind : o.kind = .documents generator) :
    ∃ rows, o = .documents generator rows := by
  cases o <;> cases kind
  exact ⟨_, rfl⟩

theorem object_of_sequence {o : Object} (kind : o.kind = .sequence) : ∃ last, o = .sequence last := by
  cases o <;> cases kind
  exact ⟨_, rfl⟩

theorem table_found (apart : KindsApart used) (settled : Settled used v) (mine : used r) {o : Object}
    (found : v.object? r.table = some o) : ∃ rows, o = .documents r.sequence rows :=
  object_of_documents (table_kind apart mine (settled.fitting _ _ (kind_of_object found)))

theorem sequence_found (apart : KindsApart used) (settled : Settled used v) (mine : used r) {o : Object}
    (found : v.object? r.sequence = some o) : ∃ last, o = .sequence last :=
  object_of_sequence (sequence_kind apart mine (settled.fitting _ _ (kind_of_object found)))

theorem has_kept (apart : KindsApart used) (settled : Settled used v) (mine : used r) (has : v.Has r) : ∃ t, v.Keeps r t := by
  obtain ⟨table, sequence⟩ := has
  rw [kind?, Option.isSome_map, Option.isSome_iff_exists] at table sequence
  obtain ⟨o, tabled⟩ := table
  obtain ⟨p, numbered⟩ := sequence
  obtain ⟨rows, rfl⟩ := table_found apart settled mine tabled
  obtain ⟨last, rfl⟩ := sequence_found apart settled mine numbered
  exact ⟨{ rows, drawn := last }, tabled, numbered⟩

theorem settled_unmistaken (apart : KindsApart used) (settled : Settled used v) : Unmistaken used v where
  indices o found := by
    rcases catalog_kind apart (Or.inl rfl) (settled.fitting _ _ (kind_of_object found)) with ⟨-, kind⟩ | ⟨same, -⟩
    · exact object_of_indices kind
    · exact absurd same (by decide)
  types o found := by
    rcases catalog_kind apart (Or.inr rfl) (settled.fitting _ _ (kind_of_object found)) with ⟨same, -⟩ | ⟨-, listed, kind⟩
    · exact absurd same (by decide)
    · exact object_of_types kind
  tables r mine o found := table_found apart settled mine found
  sequences r mine o found := sequence_found apart settled mine found
  provided rows found e member := by
    have listed : (⟨e.index, e.name⟩ : Relation) ∈ rows.map fun t => ⟨t.index, t.name⟩ := List.mem_map_of_mem member
    have there := kind_of_object found
    exact has_kept apart settled ((settled.fitting _ _ there).2 _ listed) (settled.provided _ there _ listed)

/-- Which tables have the name of a sequence or of a table of the catalog; where none in use does, every name stands for what it
was made for. -/
theorem clashing_names_iff (habits : Habits) (ops : List Operation) (apart : KindsApart (InUse ops)) :
    (∀ p q : Relation, p.table = q.sequence ↔ p = q.numbering ∨ Overlaps p q.numbering ∨ Overlaps q.numbering p) ∧
    (∀ p : Relation, (p.table = indexTable ↔ p = ⟨"pgelastic", "indices"⟩) ∧
      (p.table = typeTable ↔ p = ⟨"pgelastic", "types"⟩) ∧ p.sequence ≠ indexTable ∧ p.sequence ≠ typeTable) ∧
    Unmistaken (InUse ops) (play (Operation.stepOn habits) ops (.empty, .empty)).2.2 := by
  refine ⟨table_is_sequence_iff, fun p => ?_, settled_unmistaken apart (Store.settled_after habits ops).1⟩
  have indices : p.table = indexTable ↔ p = ⟨"pgelastic", "indices"⟩ :=
    @plain_table_iff p "pgelastic" "indices" (by decide) (by decide)
  have types : p.table = typeTable ↔ p = ⟨"pgelastic", "types"⟩ :=
    @plain_table_iff p "pgelastic" "types" (by decide) (by decide)
  exact ⟨indices, types, sequence_not_catalog p⟩

def similarNames : List Operation := [.createCatalog, .createType "i" "t" "", .createType "i" "t_id" ""]

theorem similar_names_apart : KindsApart (InUse similarNames) ∧
    Unmistaken (InUse similarNames) (play (Operation.stepOn Store.backwards) similarNames (.empty, .empty)).2.2 := by
  have apart : KindsApart (InUse similarNames) := by
    constructor
    · have sequences : ∀ p ∈ similarNames.filterMap Operation.created?, ∀ q ∈ similarNames.filterMap Operation.created?,
          p.table ≠ q.sequence := by decide
      exact fun p q left right => sequences p (in_use_iff.mp left) q (in_use_iff.mp right)
    · have catalog : ∀ p ∈ similarNames.filterMap Operation.created?, p.table ≠ indexTable ∧ p.table ≠ typeTable := by
        decide
      exact fun p mine => catalog p (in_use_iff.mp mine)
  exact ⟨apart, (clashing_names_iff Store.backwards similarNames apart).2.2⟩

/-- The table of this pair is the catalog's own. -/
theorem valid_names_clash : ¬ ∀ p q : Relation, Relation.ofNames p.index p.type = .ok p →
    Relation.ofNames q.index q.type = .ok q → p.table ≠ q.sequence ∧ p.table ≠ indexTable ∧ p.table ≠ typeTable ∧
      p.sequence ≠ indexTable ∧ p.sequence ≠ typeTable := by
  intro never
  have valid : Relation.ofNames "pgelastic" "indices" = .ok ⟨"pgelastic", "indices"⟩ := by decide
  exact (never ⟨"pgelastic", "indices"⟩ ⟨"pgelastic", "indices"⟩ valid valid).2.1 (by decide)

example : (play (Operation.stepOn Store.backwards)
    [.createCatalog, .createType "pgelastic" "indices" "", .createDocument "pgelastic" "indices" .null none] (.empty, .empty)).1 =
    [.ok .done, .ok (.type ⟨"indices", "pgelastic", ""⟩),
      .error (.queryFailure (.database "relation \"pgelastic_indices\" does not exist"))] := by rfl

end Sql

end SearchStore

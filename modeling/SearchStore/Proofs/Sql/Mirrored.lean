import SearchStore.Proofs.Sql.Listing

/-!
A memory and a server that keep the same: the catalog as rows of two tables, and for every type a
table of documents with the sequence that numbers them. Writing one of these leaves the others alone,
as long as no name stands for two things.
-/

set_option autoImplicit false

namespace SearchStore.Sql

variable {α : Type} {used : Relation → Prop} {m : Memory} {v v' : Server} {q r : Relation} {t : Table}

structure Separate (used : Relation → Prop) : Prop where
  tables : ∀ p q, used p → used q → p.table = q.table → p = q
  sequences : ∀ p q, used p → used q → p.table ≠ q.sequence
  catalog : ∀ p, used p → ∀ name ∈ [indexTable, typeTable], p.table ≠ name ∧ p.sequence ≠ name

theorem table_of_sequence (same : q.sequence = r.sequence) : q.table = r.table := by
  have letters := congrArg String.toList same
  rw [Relation.sequence, Relation.sequence, String.toList_append, String.toList_append] at letters
  exact String.toList_injective (List.append_cancel_right letters)

theorem filter_first {rows : List α} {p : α → Bool} (apart : rows.Pairwise fun a b => ¬ (p a = true ∧ p b = true)) :
    rows.filter p = (rows.find? p).toList := by
  induction rows with
  | nil => rfl
  | cons a rest ih =>
      obtain ⟨first, later⟩ := List.pairwise_cons.mp apart
      cases here : p a with
      | false => simp [here, ih later]
      | true =>
          have none : rest.filter p = [] := by
            rw [List.filter_eq_nil_iff]
            exact fun b member there => first b member ⟨here, there⟩
          simp [here, none]

namespace Server

theorem object_put (v : Server) (name key : String) (o : Object) :
    (v.put name o).object? key = if key = name then some o else v.object? key := by
  by_cases same : key = name
  · rw [if_pos same, same]
    exact Keyed.find_insert_same v.objects name o
  · rw [if_neg same]
    exact Keyed.find_insert_other v.objects name key o same

theorem object_put_two (v : Server) (first second key : String) (o p : Object) :
    ((v.put first o).put second p).object? key =
      if key = second then some p else if key = first then some o else v.object? key := by
  rw [object_put, object_put]

structure Keeps (v : Server) (r : Relation) (t : Table) : Prop where
  documents : v.object? r.table = some (.documents r.sequence t.rows)
  drawn : v.object? r.sequence = some (.sequence t.drawn)

def SameBut (r : Relation) (v v' : Server) : Prop :=
  ∀ name, name ≠ r.table → name ≠ r.sequence → v'.object? name = v.object? name

theorem same_but_put (name : String) (o : Object) (own : name = r.table ∨ name = r.sequence) : SameBut r v (v.put name o) := by
  intro key table sequence
  have other : key ≠ name := by
    rcases own with rfl | rfl
    · exact table
    · exact sequence
  rw [object_put, if_neg other]

theorem same_but_trans {v'' : Server} (first : SameBut r v v') (second : SameBut r v' v'') : SameBut r v v'' :=
  fun name table sequence => (second name table sequence).trans (first name table sequence)

theorem table_sequence_apart (r : Relation) : r.table ≠ r.sequence := by
  intro same
  have sizes := congrArg String.utf8ByteSize same
  rw [Relation.sequence, String.utf8ByteSize_append] at sizes
  have suffix : Relation.sequenceSuffix.utf8ByteSize = 7 := rfl
  omega

theorem keeps_put (keeps : v.Keeps r t) (rows : List Document) :
    (v.put r.table (.documents r.sequence rows)).Keeps r { t with rows } where
  documents := by rw [object_put, if_pos rfl]
  drawn := by
    rw [object_put, if_neg (table_sequence_apart r).symm]
    exact keeps.drawn

theorem keeps_drawn (keeps : v.Keeps r t) (drawn : Nat) :
    (v.put r.sequence (.sequence drawn)).Keeps r { t with drawn } where
  documents := by
    rw [object_put, if_neg (table_sequence_apart r)]
    exact keeps.documents
  drawn := by rw [object_put, if_pos rfl]

end Server

open Server

-- The catalog tables have one row for each index and for each type, and a relation in use without a
-- type is not kept at all.
structure Mirrored (used : Relation → Prop) (m : Memory) (v : Server) : Prop where
  indices : ∃ rows, v.object? indexTable = some (.indices rows) ∧ rows.Pairwise (fun a b => a.name ≠ b.name) ∧
    ∀ name, rows.find? (·.name == name) = m.index? name
  types : ∃ rows, v.object? typeTable = some (.types rows) ∧ rows.Pairwise (fun a b => ¬ (a.index = b.index ∧ a.name = b.name)) ∧
    ∀ index name, rows.find? (ofType index name) = m.type? index name
  kept : ∀ r, (m.typeOf? r).isSome → v.Keeps r (m.table r)
  free : ∀ r, used r → m.typeOf? r = none → v.object? r.table = none ∧ v.object? r.sequence = none ∧ m.table r = .empty
  mine : ∀ r, (m.typeOf? r).isSome → used r
  distinct : ∀ r, (m.typeOf? r).isSome → (m.table r).Distinct
  indicesOrdered : Keyed.Ordered m.indices
  typesOrdered : Memory.TypesOrdered m.types

theorem mirrored_objects (mirrored : Mirrored used m v) (same : ∀ name, v'.object? name = v.object? name) : Mirrored used m v' where
  indices := by
    rw [same]
    exact mirrored.indices
  types := by
    rw [same]
    exact mirrored.types
  kept r typed := by
    have before := mirrored.kept r typed
    exact ⟨(same _).trans before.documents, (same _).trans before.drawn⟩
  free r mine untyped := by
    rw [same, same]
    exact mirrored.free r mine untyped
  mine := mirrored.mine
  distinct := mirrored.distinct
  indicesOrdered := mirrored.indicesOrdered
  typesOrdered := mirrored.typesOrdered

theorem mirrored_start (indices : v.object? indexTable = some (.indices [])) (types : v.object? typeTable = some (.types []))
    (blank : ∀ r, used r → v.object? r.table = none ∧ v.object? r.sequence = none) : Mirrored used .empty v where
  indices := ⟨[], indices, List.Pairwise.nil, fun _ => rfl⟩
  types := ⟨[], types, List.Pairwise.nil, fun _ _ => rfl⟩
  kept r typed := by cases typed
  free r mine _ := ⟨(blank r mine).1, (blank r mine).2, rfl⟩
  mine r typed := by cases typed
  distinct r typed := by cases typed
  indicesOrdered := List.Pairwise.nil
  typesOrdered := List.Pairwise.nil

theorem relation_put (separate : Separate used) {name : String} (catalog : name ∈ [indexTable, typeTable]) (o : Object) (mine : used r) :
    (v.put name o).object? r.table = v.object? r.table ∧ (v.put name o).object? r.sequence = v.object? r.sequence := by
  obtain ⟨table, sequence⟩ := separate.catalog r mine name catalog
  rw [object_put, object_put, if_neg table, if_neg sequence]
  exact ⟨rfl, rfl⟩

theorem keeps_beside (separate : Separate used) {name : String} (catalog : name ∈ [indexTable, typeTable]) (o : Object) (mine : used r)
    (keeps : v.Keeps r t) : (v.put name o).Keeps r t := by
  obtain ⟨table, sequence⟩ := relation_put (v := v) separate catalog o mine
  exact ⟨table.trans keeps.documents, sequence.trans keeps.drawn⟩

theorem mirrored_indices (separate : Separate used) (mirrored : Mirrored used m v) {indices : Keyed IndexEntry} {rows : List IndexEntry}
    (ordered : Keyed.Ordered indices) (apart : rows.Pairwise fun a b => a.name ≠ b.name)
    (found : ∀ name, rows.find? (·.name == name) = Keyed.find? indices name) :
    Mirrored used { m with indices } (v.put indexTable (.indices rows)) where
  indices := ⟨rows, by rw [object_put, if_pos rfl], apart, found⟩
  types := by
    rw [object_put, if_neg (by decide)]
    exact mirrored.types
  kept r typed := keeps_beside separate (by simp) _ (mirrored.mine r typed) (mirrored.kept r typed)
  free r mine untyped := by
    have catalog : indexTable ∈ [indexTable, typeTable] := by simp
    obtain ⟨table, sequence⟩ := relation_put (v := v) separate catalog (.indices rows) mine
    rw [table, sequence]
    exact mirrored.free r mine untyped
  mine := mirrored.mine
  distinct := mirrored.distinct
  indicesOrdered := ordered
  typesOrdered := mirrored.typesOrdered

theorem index_rows_added {name : String} (absent : m.index? name = none) (options : String) {rows : List IndexEntry}
    (apart : rows.Pairwise fun a b => a.name ≠ b.name) (found : ∀ name, rows.find? (·.name == name) = m.index? name) :
    List.Pairwise (fun a b => a.name ≠ b.name) (rows ++ [⟨name, options⟩]) ∧
      ∀ key, List.find? (·.name == key) (rows ++ [⟨name, options⟩]) = (m.addIndex name options).index? key := by
  constructor
  · rw [List.pairwise_append]
    refine ⟨apart, List.pairwise_singleton .., fun a member b last same => ?_⟩
    obtain rfl := List.mem_singleton.mp last
    exact List.find?_eq_none.mp ((found name).trans absent) a member (beq_iff_eq.mpr same)
  · intro key
    rw [List.find?_append, found, List.find?_singleton, Memory.index_added]
    by_cases same : key = name
    · simp [same, absent]
    · simp [same, Ne.symm same]

theorem mirrored_types (separate : Separate used) (mirrored : Mirrored used m v) {types rows : List TypeEntry}
    (ordered : Memory.TypesOrdered types) (apart : rows.Pairwise fun a b => ¬ (a.index = b.index ∧ a.name = b.name))
    (found : ∀ index name, rows.find? (ofType index name) = Memory.type? { m with types } index name)
    (same : ∀ q, (Memory.typeOf? { m with types } q).isSome = (m.typeOf? q).isSome) :
    Mirrored used { m with types } (v.put typeTable (.types rows)) where
  indices := by
    rw [object_put, if_neg (by decide)]
    exact mirrored.indices
  types := ⟨rows, by rw [object_put, if_pos rfl], apart, found⟩
  kept r typed := by
    rw [same] at typed
    exact keeps_beside separate (by simp) _ (mirrored.mine r typed) (mirrored.kept r typed)
  free r mine untyped := by
    have before : m.typeOf? r = none := by
      rw [← Option.not_isSome_iff_eq_none, ← same, untyped]
      exact Bool.false_ne_true
    have catalog : typeTable ∈ [indexTable, typeTable] := by simp
    obtain ⟨table, sequence⟩ := relation_put (v := v) separate catalog (.types rows) mine
    rw [table, sequence]
    exact mirrored.free r mine before
  mine r typed := mirrored.mine r ((same r).symm.trans typed)
  distinct r typed := mirrored.distinct r ((same r).symm.trans typed)
  indicesOrdered := mirrored.indicesOrdered
  typesOrdered := ordered

theorem names_apart (separate : Separate used) (left : used q) (right : used r) (different : q ≠ r) :
    q.table ≠ r.table ∧ q.table ≠ r.sequence ∧ q.sequence ≠ r.table ∧ q.sequence ≠ r.sequence := by
  have tables : q.table ≠ r.table := fun same => different (separate.tables q r left right same)
  refine ⟨tables, separate.sequences q r left right, (separate.sequences r q right left).symm, ?_⟩
  exact fun same => tables (table_of_sequence same)

theorem same_but_other (separate : Separate used) (left : used q) (right : used r) (different : q ≠ r) (others : SameBut r v v') :
    v'.object? q.table = v.object? q.table ∧ v'.object? q.sequence = v.object? q.sequence := by
  obtain ⟨tables, crossed, sequenced, sequences⟩ := names_apart separate left right different
  exact ⟨others _ tables crossed, others _ sequenced sequences⟩

theorem same_but_catalog (separate : Separate used) (mine : used r) (others : SameBut r v v') {name : String}
    (catalog : name ∈ [indexTable, typeTable]) : v'.object? name = v.object? name := by
  obtain ⟨table, sequence⟩ := separate.catalog r mine name catalog
  exact others name table.symm sequence.symm

theorem mirrored_put (separate : Separate used) (mirrored : Mirrored used m v) (typed : (m.typeOf? r).isSome) (distinct : t.Distinct)
    (keeps : v'.Keeps r t) (others : SameBut r v v') : Mirrored used (m.setTable r t) v' := by
  have mine := mirrored.mine r typed
  have tables (q : Relation) (used : (m.typeOf? q).isSome) (different : q ≠ r) : (m.setTable r t).table q = m.table q := by
    exact Memory.table_set_other t (names_apart separate (mirrored.mine q used) mine different).1
  constructor
  · rw [same_but_catalog separate mine others (by simp)]
    exact mirrored.indices
  · rw [same_but_catalog separate mine others (by simp)]
    exact mirrored.types
  · intro q there
    by_cases same : q = r
    · rw [same, Memory.table_set_same]
      exact keeps
    · obtain ⟨table, sequence⟩ := same_but_other separate (mirrored.mine q there) mine same others
      rw [tables q there same]
      have before := mirrored.kept q there
      exact ⟨table.trans before.documents, sequence.trans before.drawn⟩
  · intro q inUse untyped
    have same : q ≠ r := by
      rintro rfl
      rw [show m.typeOf? q = none from untyped] at typed
      cases typed
    obtain ⟨table, sequence⟩ := same_but_other separate inUse mine same others
    rw [table, sequence, Memory.table_set_other t (names_apart separate inUse mine same).1]
    exact mirrored.free q inUse untyped
  · exact mirrored.mine
  · intro q there
    by_cases same : q = r
    · rw [same, Memory.table_set_same]
      exact distinct
    · rw [tables q there same]
      exact mirrored.distinct q there
  · exact mirrored.indicesOrdered
  · exact mirrored.typesOrdered

theorem type_rows_added (absent : m.typeOf? r = none) (options : String) {rows : List TypeEntry}
    (apart : rows.Pairwise fun a b => ¬ (a.index = b.index ∧ a.name = b.name))
    (found : ∀ index name, rows.find? (ofType index name) = m.type? index name) :
    (rows ++ [r.entry options]).Pairwise (fun a b => ¬ (a.index = b.index ∧ a.name = b.name)) ∧
      ∀ index name, (rows ++ [r.entry options]).find? (ofType index name) = (m.addType r options).type? index name := by
  constructor
  · rw [List.pairwise_append]
    refine ⟨apart, List.pairwise_singleton .., fun a member b last same => ?_⟩
    obtain rfl := List.mem_singleton.mp last
    have none : rows.find? (ofType r.index r.type) = none := (found r.index r.type).trans absent
    refine List.find?_eq_none.mp none a member ?_
    simpa [ofType, Relation.entry] using same
  · intro index name
    rw [List.find?_append, found, List.find?_singleton]
    by_cases same : (⟨index, name⟩ : Relation) = r
    · subst same
      have here : m.type? index name = none := absent
      rw [here, Option.none_or, if_pos (by simp [ofType, Relation.entry])]
      exact (Memory.entry_added_same absent).symm
    · have missed : ¬ ofType index name (r.entry options) = true := by
        intro holds
        simp only [ofType, Relation.entry, Bool.and_eq_true, beq_iff_eq] at holds
        exact same (by rw [← holds.1, ← holds.2])
      have other : (m.addType r options).typeOf? ⟨index, name⟩ = m.typeOf? ⟨index, name⟩ := Memory.entry_added_other same
      rw [if_neg missed, Option.or_none]
      exact other.symm

theorem mirrored_type (separate : Separate used) (mirrored : Mirrored used m v) (mine : used r) (absent : m.typeOf? r = none)
    (options : String) {rows : List TypeEntry} (apart : rows.Pairwise fun a b => ¬ (a.index = b.index ∧ a.name = b.name))
    (found : ∀ index name, rows.find? (ofType index name) = m.type? index name) (keeps : v'.Keeps r .empty)
    (others : SameBut r (v.put typeTable (.types (rows ++ [r.entry options]))) v') : Mirrored used (m.addType r options) v' := by
  have blank : m.table r = .empty := (mirrored.free r mine absent).2.2
  have own : (m.addType r options).table r = .empty := (Memory.table_set_same _).trans blank
  have before (q : Relation) (different : q ≠ r) : (m.addType r options).typeOf? q = m.typeOf? q := Memory.entry_added_other different
  have tables (q : Relation) (inUse : used q) (different : q ≠ r) : (m.addType r options).table q = m.table q :=
    Memory.table_set_other _ (names_apart separate inUse mine different).1
  have unchanged (q : Relation) (inUse : used q) (different : q ≠ r) :
      v'.object? q.table = v.object? q.table ∧ v'.object? q.sequence = v.object? q.sequence := by
    have catalog : typeTable ∈ [indexTable, typeTable] := by simp
    obtain ⟨table, sequence⟩ := same_but_other separate inUse mine different others
    obtain ⟨tableToo, sequenceToo⟩ := relation_put (v := v) separate catalog (.types (rows ++ [r.entry options])) inUse
    exact ⟨table.trans tableToo, sequence.trans sequenceToo⟩
  constructor
  · rw [same_but_catalog separate mine others (by simp), object_put, if_neg (by decide)]
    exact mirrored.indices
  · obtain ⟨apartToo, foundToo⟩ := type_rows_added absent options apart found
    refine ⟨_, ?_, apartToo, foundToo⟩
    rw [same_but_catalog separate mine others (by simp), object_put, if_pos rfl]
  · intro q there
    by_cases same : q = r
    · rw [same, own]
      exact keeps
    · rw [before q same] at there
      have inUse := mirrored.mine q there
      obtain ⟨table, sequence⟩ := unchanged q inUse same
      have kept := mirrored.kept q there
      rw [tables q inUse same]
      exact ⟨table.trans kept.documents, sequence.trans kept.drawn⟩
  · intro q inUse untyped
    have same : q ≠ r := by
      rintro rfl
      rw [Memory.entry_added_same absent] at untyped
      cases untyped
    obtain ⟨table, sequence⟩ := unchanged q inUse same
    rw [table, sequence, tables q inUse same]
    exact mirrored.free q inUse ((before q same).symm.trans untyped)
  · intro q there
    by_cases same : q = r
    · exact same ▸ mine
    · rw [before q same] at there
      exact mirrored.mine q there
  · intro q there
    by_cases same : q = r
    · rw [same, own]
      exact Table.empty_distinct
    · rw [before q same] at there
      rw [tables q (mirrored.mine q there) same]
      exact mirrored.distinct q there
  · exact mirrored.indicesOrdered
  · exact Memory.insert_type_ordered mirrored.typesOrdered (Memory.entry_absent.mp absent)

end SearchStore.Sql

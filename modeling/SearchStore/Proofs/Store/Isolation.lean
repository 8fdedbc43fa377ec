import SearchStore.Proofs.Store.Effects

/-!
Whether what is written under one pair shows under another. It does exactly when the two share a
table, and two pairs do when an underscore within a name can be taken for the one between names.
-/

set_option autoImplicit false

namespace SearchStore.Store

open Store.State StoreM

inductive Operation.WritesTo (p : Relation) : Operation → Prop where
  | createType (options : String) : WritesTo p (.createType p.index p.type options)
  | createDocument (source : Json) (id : Option String) : WritesTo p (.createDocument p.index p.type source id)
  | updateDocument (source : Json) (id : String) : WritesTo p (.updateDocument p.index p.type source id)
  | deleteDocument (id : String) : WritesTo p (.deleteDocument p.index p.type id)

-- Everything a caller can ask about a pair has the same answer in two states.
structure SameView (q : Relation) (s s' : State) : Prop where
  fetched : ∀ id, (Operation.step (.getDocument q.index q.type id) s').1 =
    (Operation.step (.getDocument q.index q.type id) s).1
  present : ∀ id, (Operation.step (.documentExists q.index q.type id) s').1 =
    (Operation.step (.documentExists q.index q.type id) s).1
  selected : ∀ predicate, (Operation.step (.select q.index q.type predicate) s').1 =
    (Operation.step (.select q.index q.type predicate) s).1
  creatable : ∀ source id, (Operation.step (.createDocument q.index q.type source (some id)) s').1.isOk =
    (Operation.step (.createDocument q.index q.type source (some id)) s).1.isOk

def Isolated (p q : Relation) : Prop :=
  ∀ (s : State) (op : Operation), Reachable s → op.WritesTo p → SameView q s (op.step s).2

structure SameAt (q : Relation) (s s' : State) : Prop where
  entry : s'.memory.typeOf? q = s.memory.typeOf? q
  table : s'.memory.table q = s.memory.table q

variable {s s' : State} {p q : Relation}

theorem find_same (same : SameAt q s s') (id : String) : s'.find? q id = s.find? q id := by
  rw [State.find?, State.find?, rows, rows, same.entry, same.table]

theorem insert_same (table : s'.memory.table q = s.memory.table q) (source : Json) (id : Option String) :
    (s'.insert q source id).1 = (s.insert q source id).1 := by
  cases id with
  | none => rw [State.insert, State.insert, table]
  | some id =>
      rw [State.insert, State.insert, table]
      split <;> rfl

theorem view_of_same (sound : s.Sound) (sound' : s'.Sound) (same : SameAt q s s') : SameView q s s' where
  fetched id := by
    simp only [Operation.step, Operation.perform, return_in_memory, get_document_in_memory sound,
      get_document_in_memory sound', find_same same]
    split <;> rfl
  present id := by
    simp only [Operation.step, Operation.perform, return_in_memory, document_exists_in_memory sound,
      document_exists_in_memory sound', find_same same]
    split <;> rfl
  selected predicate := by
    simp only [Operation.step, Operation.perform, return_in_memory, select_in_memory sound, select_in_memory sound',
      rows, same.entry, same.table]
  creatable source id := by
    simp only [Operation.step, Operation.perform, return_in_memory, create_document_in_memory sound,
      create_document_in_memory sound']
    cases accepted : place q.index q.type ((some id).filter (· ≠ "")) with
    | error e => rfl
    | ok r =>
        obtain rfl := relation_of_names (place_iff.mp accepted).2
        have tables : (s'.provide q "").memory.table q = (s.provide q "").memory.table q := by
          rw [provide_table, provide_table, same.table]
        simp only [insert_same tables]

theorem provide_same (different : q ≠ p) (options : String) : SameAt q s (s.provide p options) where
  entry := by rw [provide_entry, if_neg different]
  table := provide_table

theorem put_same (apart : q.table ≠ p.table) (t : Table) : SameAt q s (s.put p t) where
  entry := rfl
  table := Memory.table_set_other t apart

theorem noted_put_same (apart : q.table ≠ p.table) (t : Table) : SameAt q s ((s.note p).put p t) where
  entry := rfl
  table := Memory.table_set_other t apart

theorem same_trans {s'' : State} (first : SameAt q s s') (second : SameAt q s' s'') : SameAt q s s'' where
  entry := second.entry.trans first.entry
  table := second.table.trans first.table

theorem insert_leaves (apart : q.table ≠ p.table) (source : Json) (id : Option String) :
    SameAt q s (s.insert p source id).2 := by
  cases id with
  | none => exact put_same apart _
  | some id =>
      rw [State.insert]
      split <;> exact put_same apart _

theorem touch_same (s : State) (p q : Relation) : SameAt q s (s.touch p) where
  entry := by rw [touch_memory]
  table := by rw [touch_memory]

theorem write_leaves (sound : s.Sound) (apart : q.table ≠ p.table) {op : Operation} (writes : op.WritesTo p) :
    SameAt q s (op.step s).2 := by
  have different : q ≠ p := fun equal => apart (congrArg Relation.table equal)
  have unchanged : SameAt q s s := ⟨rfl, rfl⟩
  cases writes with
  | createType options =>
      rw [Operation.step, Operation.perform, return_in_memory, create_type_in_memory sound]
      cases valid : Relation.ofNames p.index p.type with
      | error e => exact unchanged
      | ok r =>
          obtain rfl := relation_of_names valid
          exact provide_same different options
  | createDocument source id =>
      rw [Operation.step, Operation.perform, return_in_memory, create_document_in_memory sound]
      cases accepted : place p.index p.type (id.filter (· ≠ "")) with
      | error e => exact unchanged
      | ok r =>
          obtain rfl := relation_of_names (place_iff.mp accepted).2
          exact same_trans (provide_same different "") (insert_leaves apart source _)
  | updateDocument source id =>
      rw [Operation.step, Operation.perform, return_in_memory, update_document_in_memory sound]
      split
      · exact unchanged
      · split
        · exact touch_same s p q
        · exact noted_put_same apart _
  | deleteDocument id =>
      rw [Operation.step, Operation.perform, return_in_memory, delete_document_in_memory sound]
      split
      · exact unchanged
      · dsimp only
        split
        · exact touch_same s p q
        · exact noted_put_same apart _

theorem isolated_of_apart (apart : q.table ≠ p.table) : Isolated p q := by
  intro s op reachable writes
  have sound := reachable_sound reachable
  exact view_of_same sound (step_sound op sound) (write_leaves sound apart writes)

theorem shared_table_shows (left : Relation.ofNames p.index p.type = .ok p)
    (right : Relation.ofNames q.index q.type = .ok q) (different : q ≠ p) (shared : q.table = p.table) :
    ¬ Isolated p q := by
  intro isolated
  let s := State.provide .fresh q ""
  let create : Operation := .createDocument p.index p.type .null (some "1")
  let d : Document := ⟨"1", .null, 1⟩
  have reachable : Reachable s := by
    refine ⟨[.createType q.index q.type ""], ?_⟩
    simp only [play, Operation.step, Operation.perform, return_in_memory, create_type_in_memory sound_fresh, right]
    rfl
  have sound := reachable_sound reachable
  have typed : (s.memory.typeOf? q).isSome := provided_entry .fresh q ""
  have blank : (s.provide p "").memory.table p = .empty := by
    rw [provide_table, ← Memory.table_shared _ shared]
    exact provide_table
  have after : (create.step s).2 = (s.provide p "").put p (Table.empty.insert d) := by
    have accepted : place p.index p.type ((some "1").filter (· ≠ "")) = .ok p := left
    have free : (s.provide p "").insert p .null (some "1") = (.ok d, (s.provide p "").put p (Table.empty.insert d)) := by
      rw [State.insert, blank]
      rfl
    simp only [create, Operation.step, Operation.perform, return_in_memory, create_document_in_memory sound, accepted]
    exact congrArg Prod.snd free
  have before : s.find? q "1" = none := by
    have empty : s.memory.table q = .empty := provide_table
    rw [find_typed typed, empty]
    rfl
  have now : (create.step s).2.find? q "1" = some d := by
    have still : ((create.step s).2.memory.typeOf? q).isSome := by
      rw [after]
      exact (congrArg Option.isSome (provide_same different "").entry).trans typed
    rw [find_typed still, after, Memory.table_shared _ shared, State.put, Memory.table_set_same]
    rfl
  have fetched := (isolated s create reachable (.createDocument .null (some "1"))).fetched "1"
  rw [fetched_answer sound (by decide), fetched_answer (step_sound create sound) (by decide), before, now] at fetched
  cases fetched

-- The index of one pair goes on past an underscore with what the type of the other begins with.
def Overlaps (p q : Relation) : Prop :=
  ∃ middle : String, q.index = p.index ++ "_" ++ middle ∧ p.type = middle ++ "_" ++ q.type

theorem overlaps_of_longer {extra : List Char} (different : p ≠ q)
    (longer : q.index.toList = p.index.toList ++ extra) (rest : '_' :: p.type.toList = extra ++ '_' :: q.type.toList) :
    Overlaps p q := by
  cases extra with
  | nil =>
      have index : p.index = q.index := String.toList_injective (by simpa using longer.symm)
      have type : p.type = q.type := String.toList_injective (by simpa using rest)
      cases p
      cases q
      exact absurd (congrArg₂ Relation.mk index type) different
  | cons c middle =>
      obtain ⟨rfl, rest⟩ := List.cons.inj rest
      refine ⟨String.ofList middle, String.toList_injective ?_, String.toList_injective ?_⟩
      · simpa using longer
      · simpa using rest

theorem same_table_iff_overlaps (different : p ≠ q) : p.table = q.table ↔ Overlaps p q ∨ Overlaps q p := by
  constructor
  · intro same
    have letters : p.index.toList ++ '_' :: p.type.toList = q.index.toList ++ '_' :: q.type.toList := by
      simpa [Relation.table] using congrArg String.toList same
    rcases List.append_eq_append_iff.mp letters with ⟨extra, longer, rest⟩ | ⟨extra, longer, rest⟩
    · exact Or.inl (overlaps_of_longer different longer rest)
    · exact Or.inr (overlaps_of_longer different.symm longer rest)
  · rintro (⟨middle, index, type⟩ | ⟨middle, index, type⟩)
    · simp only [Relation.table, index, type, String.append_assoc]
    · simp only [Relation.table, index, type, String.append_assoc]

/-- Nothing that is done under one pair shows under the other exactly when they do not overlap. -/
theorem isolated_iff_not_overlapping (left : Relation.ofNames p.index p.type = .ok p)
    (right : Relation.ofNames q.index q.type = .ok q) (different : p ≠ q) :
    Isolated p q ↔ ¬ (Overlaps p q ∨ Overlaps q p) := by
  rw [← same_table_iff_overlaps different]
  constructor
  · intro isolated shared
    exact shared_table_shows left right different.symm shared.symm isolated
  · intro apart
    exact isolated_of_apart (Ne.symm apart)

theorem underscores_apart_isolated : Isolated ⟨"a_b", "c"⟩ ⟨"a", "b_d"⟩ := by
  have different : (⟨"a_b", "c"⟩ : Relation) ≠ ⟨"a", "b_d"⟩ := by decide
  have apart : ¬ Relation.table ⟨"a_b", "c"⟩ = Relation.table ⟨"a", "b_d"⟩ := by decide
  rw [same_table_iff_overlaps different] at apart
  exact (isolated_iff_not_overlapping (by decide) (by decide) different).mpr apart

theorem underscored_names_not_isolated :
    ¬ ∀ p q : Relation, Relation.ofNames p.index p.type = .ok p → Relation.ofNames q.index q.type = .ok q → p ≠ q →
      Isolated p q := by
  intro isolated
  have left : Relation.ofNames "a_b" "c" = .ok ⟨"a_b", "c"⟩ := by decide
  have right : Relation.ofNames "a" "b_c" = .ok ⟨"a", "b_c"⟩ := by decide
  have different : (⟨"a", "b_c"⟩ : Relation) ≠ ⟨"a_b", "c"⟩ := by decide
  have shared : Relation.table ⟨"a", "b_c"⟩ = Relation.table ⟨"a_b", "c"⟩ := by decide
  exact shared_table_shows left right different shared (isolated _ _ left right different.symm)

end SearchStore.Store

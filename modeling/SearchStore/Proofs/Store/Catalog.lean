import SearchStore.Store.InMemory

/-!
The catalog and the tables of a memory by their keys: an index by its name, a type by the relation
of its pair, a table by its name. Each change of the memory shows under one key and under no other,
and the lists stay in order.
-/

set_option autoImplicit false

namespace SearchStore

namespace Keyed

variable {α β : Type}

theorem find_map (f : α → β) (m : Keyed α) (key : String) :
    Keyed.find? (m.map fun e => (e.1, f e.2)) key = (Keyed.find? m key).map f := by
  induction m with
  | nil => rfl
  | cons e rest ih =>
      by_cases same : e.1 = key
      · simp [Keyed.find?, same]
      · simp only [List.map_cons, Keyed.find?, if_neg same, ih]

theorem map_ordered (f : α → β) {m : Keyed α} (ordered : Ordered m) :
    Ordered (m.map fun e => (e.1, f e.2)) := by
  rw [Ordered, List.pairwise_map]
  exact ordered

theorem find_of_member {m : Keyed α} {key : String} {value : α} (ordered : Ordered m) (member : (key, value) ∈ m) :
    Keyed.find? m key = some value := by
  induction m with
  | nil => cases member
  | cons e rest ih =>
      obtain ⟨first, later⟩ := List.pairwise_cons.mp ordered
      rcases List.mem_cons.mp member with rfl | member
      · rw [Keyed.find?, if_pos rfl]
      · have apart : e.1 ≠ key := by
          intro same
          have before := first (key, value) member
          rw [same, Text.before, Text.precedes_irrefl] at before
          cases before
        rw [Keyed.find?, if_neg apart]
        exact ih later member

theorem keys_eq_of_find {m : Keyed α} {n : Keyed β} (left : Ordered m) (right : Ordered n)
    (alike : ∀ key, (Keyed.find? m key).isSome = (Keyed.find? n key).isSome) : Keyed.keys m = Keyed.keys n := by
  have same : (m.map fun e => (e.1, ())) = n.map fun e => (e.1, ()) := by
    refine eq_of_find (map_ordered (fun _ => ()) left) (map_ordered (fun _ => ()) right) fun key => ?_
    rw [find_map (fun _ => ()), find_map (fun _ => ())]
    have present := alike key
    cases one : Keyed.find? m key <;> cases other : Keyed.find? n key <;> simp_all
  have names := congrArg (List.map Prod.fst) same
  simpa only [List.map_map, Function.comp_def, Keyed.keys] using names

theorem mem_keys {m : Keyed α} (ordered : Ordered m) {key : String} : key ∈ Keyed.keys m ↔ (Keyed.find? m key).isSome := by
  constructor
  · intro member
    obtain ⟨⟨_, value⟩, entry, rfl⟩ := List.mem_map.mp member
    rw [find_of_member ordered entry]
    rfl
  · intro present
    induction m with
    | nil => cases present
    | cons e rest ih =>
        by_cases same : e.1 = key
        · exact List.mem_cons.mpr (Or.inl same.symm)
        · rw [Keyed.find?, if_neg same] at present
          exact List.mem_cons_of_mem _ (ih (List.pairwise_cons.mp ordered).2 present)

theorem keys_ordered {m : Keyed α} (ordered : Ordered m) : (Keyed.keys m).Pairwise fun a b => Text.before a b = true :=
  List.pairwise_map.mpr ordered

end Keyed

def Relation.entry (r : Relation) (options : String) : TypeEntry := ⟨r.type, r.index, options⟩

namespace Memory

def typeOf? (m : Memory) (r : Relation) : Option TypeEntry := m.type? r.index r.type

def addIndex (m : Memory) (name options : String) : Memory :=
  { m with indices := Keyed.insert m.indices name ⟨name, options⟩ }

def addType (m : Memory) (r : Relation) (options : String) : Memory :=
  { m with types := insertType (r.entry options) m.types }.setTable r (m.table r)

def replaceOptions (m : Memory) (r : Relation) (options : String) : Memory :=
  { m with types := m.types.map (setOptions r.index r.type options) }

def IsEntry (r : Relation) (t : TypeEntry) : Prop := t.index = r.index ∧ t.name = r.type

theorem entry_holds {r : Relation} {t : TypeEntry} : (t.index == r.index && t.name == r.type) = true ↔ IsEntry r t := by
  simp [IsEntry]

theorem relation_of_entry {q r : Relation} {t : TypeEntry} (left : IsEntry q t) (right : IsEntry r t) : q = r := by
  cases q
  cases r
  simp only [Relation.mk.injEq]
  exact ⟨left.1.symm.trans right.1, left.2.symm.trans right.2⟩

theorem entry_of_find {m : Memory} {r : Relation} {t : TypeEntry} (found : m.typeOf? r = some t) :
    t ∈ m.types ∧ IsEntry r t := by
  have holds := List.find?_some found
  exact ⟨List.mem_of_find?_eq_some found, entry_holds.mp holds⟩

theorem entry_absent {m : Memory} {r : Relation} :
    m.typeOf? r = none ↔ ∀ t ∈ m.types, ¬ IsEntry r t := by
  rw [typeOf?, type?, List.find?_eq_none]
  simp only [entry_holds]

theorem mem_insert_type {entry t : TypeEntry} {types : List TypeEntry} :
    t ∈ insertType entry types ↔ t = entry ∨ t ∈ types := by
  induction types with
  | nil => simp [insertType]
  | cons u rest ih =>
      by_cases earlier : typeBefore entry u = true
      · simp [insertType, earlier]
      · simp [insertType, earlier, ih, or_left_comm]

theorem find_insert_type_same {entry : TypeEntry} {types : List TypeEntry} {p : TypeEntry → Bool}
    (holds : p entry = true) (absent : ∀ t ∈ types, p t = false) :
    (insertType entry types).find? p = some entry := by
  induction types with
  | nil => simp [insertType, holds]
  | cons u rest ih =>
      by_cases earlier : typeBefore entry u = true
      · simp [insertType, earlier, holds]
      · rw [insertType, if_neg earlier, List.find?_cons, absent u (by simp)]
        exact ih fun t member => absent t (by simp [member])

theorem find_insert_type_other {entry : TypeEntry} {types : List TypeEntry} {p : TypeEntry → Bool}
    (fails : p entry = false) : (insertType entry types).find? p = types.find? p := by
  induction types with
  | nil => simp [insertType, fails]
  | cons u rest ih =>
      by_cases earlier : typeBefore entry u = true
      · simp [insertType, earlier, fails]
      · simp only [insertType, if_neg earlier, List.find?_cons, ih]

theorem type_before_trans {a b c : TypeEntry} (first : typeBefore a b = true) (second : typeBefore b c = true) :
    typeBefore a c = true := by
  simp only [typeBefore, Bool.or_eq_true, Bool.and_eq_true, beq_iff_eq] at first second ⊢
  rcases first with less | ⟨same, less⟩
  · rcases second with more | ⟨again, _⟩
    · exact Or.inl (Text.before_trans less more)
    · exact Or.inl (again ▸ less)
  · rcases second with more | ⟨again, more⟩
    · exact Or.inl (same ▸ more)
    · exact Or.inr ⟨same.trans again, Text.before_trans less more⟩

theorem type_before_total {a b : TypeEntry} (different : ¬ (b.index = a.index ∧ b.name = a.name)) :
    typeBefore a b = true ∨ typeBefore b a = true := by
  simp only [typeBefore, Bool.or_eq_true, Bool.and_eq_true, beq_iff_eq]
  by_cases same : a.index = b.index
  · have names : a.name ≠ b.name := fun equal => different ⟨same.symm, equal.symm⟩
    rcases Text.before_total names with less | less
    · exact Or.inl (Or.inr ⟨same, less⟩)
    · exact Or.inr (Or.inr ⟨same.symm, less⟩)
  · rcases Text.before_total same with less | less
    · exact Or.inl (Or.inl less)
    · exact Or.inr (Or.inl less)

def TypesOrdered (types : List TypeEntry) : Prop := types.Pairwise fun a b => typeBefore a b = true

theorem insert_type_ordered {entry : TypeEntry} {types : List TypeEntry} (ordered : TypesOrdered types)
    (absent : ∀ t ∈ types, ¬ (t.index = entry.index ∧ t.name = entry.name)) :
    TypesOrdered (insertType entry types) := by
  induction types with
  | nil => exact List.pairwise_singleton ..
  | cons u rest ih =>
      obtain ⟨first, later⟩ := List.pairwise_cons.mp ordered
      by_cases earlier : typeBefore entry u = true
      · rw [insertType, if_pos earlier]
        refine List.pairwise_cons.mpr ⟨?_, ordered⟩
        intro t member
        rcases List.mem_cons.mp member with rfl | member
        · exact earlier
        · exact type_before_trans earlier (first t member)
      · rw [insertType, if_neg earlier]
        refine List.pairwise_cons.mpr ⟨?_, ih later fun t member => absent t (by simp [member])⟩
        intro t member
        rcases mem_insert_type.mp member with rfl | member
        · exact (type_before_total (absent u (by simp))).resolve_left earlier
        · exact first t member

theorem set_options_keeps (index name options : String) (t : TypeEntry) :
    (setOptions index name options t).index = t.index ∧ (setOptions index name options t).name = t.name := by
  rw [setOptions]
  split <;> exact ⟨rfl, rfl⟩

theorem replace_options_ordered {types : List TypeEntry} (index name options : String) (ordered : TypesOrdered types) :
    TypesOrdered (types.map (setOptions index name options)) := by
  rw [TypesOrdered, List.pairwise_map]
  refine ordered.imp fun {a b} before => ?_
  simpa only [typeBefore, set_options_keeps] using before

variable {m : Memory} {q r : Relation} {options : String}

theorem index_added (name key : String) :
    (m.addIndex name options).index? key = if key = name then some ⟨name, options⟩ else m.index? key := by
  by_cases same : key = name
  · rw [if_pos same, same]
    exact Keyed.find_insert_same m.indices name _
  · rw [if_neg same]
    exact Keyed.find_insert_other m.indices name key _ same

theorem entry_added_same (absent : m.typeOf? r = none) : (m.addType r options).typeOf? r = some (r.entry options) := by
  apply find_insert_type_same
  · simp [Relation.entry]
  · intro t member
    exact Bool.eq_false_iff.mpr fun holds => entry_absent.mp absent t member (entry_holds.mp holds)

theorem entry_added_other (different : q ≠ r) : (m.addType r options).typeOf? q = m.typeOf? q := by
  apply find_insert_type_other
  exact Bool.eq_false_iff.mpr fun holds => different (relation_of_entry (entry_holds.mp holds) ⟨rfl, rfl⟩)

theorem entry_replaced : (m.replaceOptions r options).typeOf? q =
    (m.typeOf? q).map (setOptions r.index r.type options) := by
  simp only [typeOf?, type?, replaceOptions, List.find?_map, Function.comp_def, set_options_keeps]

theorem entry_replaced_same : (m.replaceOptions r options).typeOf? r = (m.typeOf? r).map fun _ => r.entry options := by
  rw [entry_replaced]
  cases found : m.typeOf? r with
  | none => rfl
  | some t =>
      obtain ⟨index, name⟩ := (entry_of_find found).2
      simp [setOptions, index, name, Relation.entry]

theorem entry_replaced_other (different : q ≠ r) : (m.replaceOptions r options).typeOf? q = m.typeOf? q := by
  rw [entry_replaced]
  cases found : m.typeOf? q with
  | none => rfl
  | some t =>
      have missed : ¬ (t.index == r.index && t.name == r.type) = true :=
        fun holds => different (relation_of_entry (entry_of_find found).2 (entry_holds.mp holds))
      rw [Option.map_some, setOptions, if_neg missed]

theorem table_set (t : Table) (name : String) :
    Keyed.find? (m.setTable r t).tables name = if name = r.table then some t else Keyed.find? m.tables name := by
  by_cases same : name = r.table
  · rw [if_pos same, same]
    exact Keyed.find_insert_same m.tables r.table t
  · rw [if_neg same]
    exact Keyed.find_insert_other m.tables r.table name t same

theorem table_set_same (t : Table) : (m.setTable r t).table r = t := by
  rw [table, table?, table_set, if_pos rfl]
  rfl

theorem table_set_other (t : Table) (apart : q.table ≠ r.table) : (m.setTable r t).table q = m.table q := by
  rw [table, table?, table_set, if_neg apart]
  rfl

theorem table_shared (m : Memory) (shared : q.table = r.table) : m.table q = m.table r := by
  rw [table, table?, shared]
  rfl

def withIndex (m : Memory) (name : String) : Memory :=
  match m.index? name with
  | some _ => m
  | none => m.addIndex name ""

theorem serve_insert_type (m : Memory) (r : Relation) (options : String) :
    m.serve (.insertType r options) =
      match m.typeOf? r with
      | some _ => (none, m)
      | none => (some (r.entry options), m.addType r options) := by
  rw [serve, typeOf?]
  cases m.type? r.index r.type <;> rfl

def typesOf (m : Memory) (index : String) : Keyed TypeEntry :=
  (m.types.filter (·.index == index)).map fun t => (t.name, t)

theorem types_of_find (m : Memory) (index name : String) : Keyed.find? (m.typesOf index) name = m.type? index name := by
  simp only [typesOf, type?]
  induction m.types with
  | nil => rfl
  | cons t rest ih =>
      by_cases here : t.index = index
      · by_cases named : t.name = name
        · simp [here, named, Keyed.find?]
        · simpa [here, named, Keyed.find?] using ih
      · simpa [here] using ih

theorem types_of_ordered (index : String) (ordered : TypesOrdered m.types) : Keyed.Ordered (m.typesOf index) := by
  rw [typesOf, Keyed.Ordered, List.pairwise_map, List.pairwise_filter]
  refine ordered.imp fun {a b} before left right => ?_
  rw [beq_iff_eq] at left right
  simp only [typeBefore, left, right, beq_self_eq_true, Bool.true_and, Bool.or_eq_true] at before
  rcases before with less | less
  · rw [Text.before, Text.precedes_irrefl] at less
    cases less
  · exact less

theorem listed_types (m : Memory) (index : String) (pattern : Pattern) :
    (m.serve (.listTypes index pattern)).1 = (Keyed.keys (m.typesOf index)).filter pattern.accepts := by
  simp only [serve, typesOf, Keyed.keys, List.map_map, List.filter_map, List.filter_filter]
  congr 1
  apply List.filter_congr
  intro t _
  exact Bool.and_comm _ _

end Memory

end SearchStore

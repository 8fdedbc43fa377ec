import SearchStore.Proofs.Store.Effects
import SearchStore.Proofs.Store.Ledger

/-!
The store answers as its ledger does, as long as no two relations that are named share a table. What
relations are noted, how types come into being in steps and what tables are called shows nowhere.
-/

set_option autoImplicit false

namespace SearchStore.Store

open Store.State StoreM

-- Every index has its book and every type its sheet, and the sheet says what the table holds.
structure Mirrors (used : Relation → Prop) (m : Memory) (l : Ledger) : Prop where
  ordered : Ledger.InOrder l
  index : ∀ name, m.index? name = (Keyed.find? l name).map fun book => ⟨name, book.options⟩
  entry : ∀ r, m.typeOf? r = (Ledger.sheet? l r).map fun sheet => r.entry sheet.options
  table : ∀ r sheet, Ledger.sheet? l r = some sheet → m.table r = ⟨sheet.drawn, sheet.rows⟩
  identified : ∀ r sheet, Ledger.sheet? l r = some sheet → "" ∉ sheet.ids
  mentioned : ∀ r, (Ledger.sheet? l r).isSome → used r

def Apart (used : Relation → Prop) : Prop := ∀ p q, used p → used q → p.table = q.table → p = q

variable {used : Relation → Prop} {s : State} {m m' : Memory} {l : Ledger} {r : Relation} {sheet : Sheet}

theorem mirrors_empty : Mirrors used .empty .empty where
  ordered := Ledger.empty_in_order
  index _ := rfl
  entry _ := rfl
  table r sheet found := by cases found
  identified r sheet found := by cases found
  mentioned r found := by cases found

theorem mirrors_add_index (mirrors : Mirrors used m l) {name : String} (options : String)
    (absent : Keyed.find? l name = none) :
    Mirrors used (m.addIndex name options) (Keyed.insert l name ⟨options, []⟩) where
  ordered := Ledger.add_in_order name options mirrors.ordered
  index key := by
    rw [Memory.index_added, mirrors.index]
    by_cases same : key = name
    · rw [if_pos same, same, Keyed.find_insert_same]
      rfl
    · rw [if_neg same, Keyed.find_insert_other _ _ _ _ same]
  entry r := by
    rw [Ledger.sheet_add absent]
    exact mirrors.entry r
  table r sheet found := by
    rw [Ledger.sheet_add absent] at found
    exact mirrors.table r sheet found
  identified r sheet found := by
    rw [Ledger.sheet_add absent] at found
    exact mirrors.identified r sheet found
  mentioned r found := by
    rw [Ledger.sheet_add absent] at found
    exact mirrors.mentioned r found

theorem mirrors_write (mirrors : Mirrors used m l) (mine : used r) (filled : "" ∉ sheet.ids)
    (indices : ∀ name, m'.index? name =
      if name = r.index then some ⟨name, (Ledger.book l r.index).options⟩ else m.index? name)
    (entries : ∀ q, m'.typeOf? q = if q = r then some (r.entry sheet.options) else m.typeOf? q)
    (here : m'.table r = ⟨sheet.drawn, sheet.rows⟩)
    (elsewhere : ∀ q, used q → q ≠ r → m'.table q = m.table q) :
    Mirrors used m' (Ledger.putSheet l r sheet) where
  ordered := Ledger.put_in_order mirrors.ordered
  index name := by
    rw [indices, Ledger.book_put, mirrors.index]
    split <;> rfl
  entry q := by
    rw [entries]
    by_cases same : q = r
    · rw [if_pos same, same, Ledger.sheet_put_same]
      rfl
    · rw [if_neg same, Ledger.sheet_put_other same]
      exact mirrors.entry q
  table q other found := by
    by_cases same : q = r
    · rw [same, Ledger.sheet_put_same, Option.some.injEq] at found
      rw [same, here, found]
    · rw [Ledger.sheet_put_other same] at found
      have mentioned := mirrors.mentioned q (Option.isSome_of_eq_some found)
      rw [elsewhere q mentioned same]
      exact mirrors.table q other found
  identified q other found := by
    by_cases same : q = r
    · rw [same, Ledger.sheet_put_same, Option.some.injEq] at found
      rw [← found]
      exact filled
    · rw [Ledger.sheet_put_other same] at found
      exact mirrors.identified q other found
  mentioned q found := by
    by_cases same : q = r
    · rw [same]
      exact mine
    · rw [Ledger.sheet_put_other same] at found
      exact mirrors.mentioned q found

theorem index_options (mirrors : Mirrors used m l) (name : String) :
    (m.index? name).getD ⟨name, ""⟩ = ⟨name, (Ledger.book l name).options⟩ := by
  rw [mirrors.index, Ledger.book]
  cases Keyed.find? l name <;> rfl

-- A pair without a type has no table yet: a table of its name would be another pair's.
theorem table_held (apart : Apart used) (sound : s.Sound) (mirrors : Mirrors used s.memory l) (mine : used r)
    (options : String) : s.memory.table r =
      ⟨((Ledger.sheet? l r).getD (.blank options)).drawn, ((Ledger.sheet? l r).getD (.blank options)).rows⟩ := by
  cases held : Ledger.sheet? l r with
  | some sheet => exact mirrors.table r sheet held
  | none =>
      have unshared : s.Unshared r := by
        intro q present same
        rw [mirrors.entry, Option.isSome_map] at present
        exact apart q r (mirrors.mentioned q present) mine same
      have untyped : s.memory.typeOf? r = none := by rw [mirrors.entry, held, Option.map_none]
      rw [Memory.table, untyped_untabled sound unshared untyped]
      rfl

theorem provided_index (sound : s.Sound) (mirrors : Mirrors used s.memory l) (options name : String) :
    (s.provide r options).memory.index? name =
      if name = r.index then some ⟨name, (Ledger.book l r.index).options⟩ else s.memory.index? name := by
  rw [provide_index sound]
  by_cases same : name = r.index
  · rw [if_pos same, if_pos same, index_options mirrors, same]
  · rw [if_neg same, if_neg same]

theorem mirrors_provide (apart : Apart used) (sound : s.Sound) (mirrors : Mirrors used s.memory l) (mine : used r)
    (options : String) (absent : Ledger.sheet? l r = none) :
    Mirrors used (s.provide r options).memory (Ledger.putSheet l r (.blank options)) := by
  refine mirrors_write mirrors mine List.not_mem_nil (provided_index sound mirrors options) ?_ ?_ ?_
  · intro q
    rw [provide_entry, mirrors.entry r, absent]
    rfl
  · have held := table_held apart sound mirrors mine options
    rw [absent] at held
    rw [provide_table, held]
    rfl
  · intro q _ _
    exact provide_table

theorem mirrors_put (apart : Apart used) (sound : s.Sound) (mirrors : Mirrors used s.memory l) (mine : used r)
    (sheet : Sheet) (options : sheet.options = ((Ledger.sheet? l r).getD (.blank "")).options) (filled : "" ∉ sheet.ids) :
    Mirrors used ((s.provide r "").put r ⟨sheet.drawn, sheet.rows⟩).memory (Ledger.putSheet l r sheet) := by
  refine mirrors_write mirrors mine filled (provided_index sound mirrors "") ?_ (Memory.table_set_same _) ?_
  · intro q
    refine (provide_entry (s := s)).trans ?_
    rw [mirrors.entry r, options]
    cases Ledger.sheet? l r <;> rfl
  · intro q mentioned different
    refine (Memory.table_set_other _ ?_).trans provide_table
    exact fun same => different (apart q r mentioned mine same)

theorem mirrors_options (mirrors : Mirrors used m l) (present : Ledger.sheet? l r = some sheet) (options : String) :
    Mirrors used (m.replaceOptions r options) (Ledger.putSheet l r { sheet with options }) := by
  have mine := mirrors.mentioned r (Option.isSome_of_eq_some present)
  refine mirrors_write mirrors mine (mirrors.identified r sheet present) ?_ ?_ (mirrors.table r sheet present) fun _ _ _ => rfl
  · intro name
    by_cases same : name = r.index
    · rw [if_pos same, same]
      refine (mirrors.index r.index).trans ?_
      rw [Ledger.book_found present]
      rfl
    · rw [if_neg same]
      rfl
  · intro q
    by_cases same : q = r
    · rw [if_pos same, same, Memory.entry_replaced_same, mirrors.entry, present]
      rfl
    · rw [if_neg same, Memory.entry_replaced_other same]

theorem rows_mirrored (mirrors : Mirrors used s.memory l) (r : Relation) : s.rows r = Ledger.rows l r := by
  rw [State.rows, Ledger.rows, mirrors.entry]
  cases present : Ledger.sheet? l r with
  | none => rfl
  | some sheet => simp [mirrors.table r sheet present]

theorem found_mirrored (mirrors : Mirrors used s.memory l) (r : Relation) (id : String) :
    s.find? r id = Ledger.find? l r id := by
  rw [State.find?, Ledger.find?, rows_mirrored mirrors]

-- No document has the empty id, so that reading it finds nothing needs no rule of its own.
theorem nothing_unnamed (mirrors : Mirrors used m l) (r : Relation) : Ledger.find? l r "" = none := by
  rw [Ledger.find?, Ledger.rows, List.find?_eq_none]
  intro d member
  cases present : Ledger.sheet? l r with
  | none => simp [present] at member
  | some sheet =>
      rw [present] at member
      intro unnamed
      exact mirrors.identified r sheet present (List.mem_map.mpr ⟨d, member, beq_iff_eq.mp unnamed⟩)

theorem indices_listed (sound : s.Sound) (mirrors : Mirrors used s.memory l) :
    Keyed.keys s.memory.indices = Keyed.keys l := by
  refine Keyed.keys_eq_of_find sound.indicesOrdered mirrors.ordered.books fun name => ?_
  have same := congrArg Option.isSome (mirrors.index name)
  rwa [Option.isSome_map] at same

theorem types_listed (sound : s.Sound) (mirrors : Mirrors used s.memory l) (index : String) :
    Keyed.keys (s.memory.typesOf index) = Keyed.keys (Ledger.book l index).sheets := by
  refine Keyed.keys_eq_of_find (Memory.types_of_ordered index sound.typesOrdered) (mirrors.ordered.sheets index) fun name => ?_
  have same := congrArg Option.isSome (mirrors.entry ⟨index, name⟩)
  rw [Option.isSome_map, Ledger.sheet_of_book] at same
  rwa [Memory.types_of_find]

def Agrees (used : Relation → Prop) (x : Result × State) (y : Result × Ledger) : Prop :=
  x.1 = y.1 ∧ Mirrors used x.2.memory y.2

theorem insert_as_added (held : s.memory.table r = ⟨sheet.drawn, sheet.rows⟩) (source : Json) (id : Option String) :
    s.insert r source id =
      ((sheet.add source id).1, s.put r ⟨(sheet.add source id).2.drawn, (sheet.add source id).2.rows⟩) := by
  cases id with
  | none =>
      simp only [State.insert, Sheet.add, held, Sheet.number_of_table]
      rfl
  | some id =>
      have same : (s.memory.table r).hasId id = true ↔ id ∈ sheet.ids := by
        rw [held]
        exact Table.has_id
      by_cases taken : id ∈ sheet.ids
      · rw [State.insert, if_pos (same.mpr taken), Sheet.add, if_pos taken, held]
      · rw [State.insert, if_neg (mt same.mp taken), Sheet.add, if_neg taken, held]
        rfl

theorem create_document_agrees (apart : Apart used) (sound : s.Sound) (mirrors : Mirrors used s.memory l)
    (index type : String) (source : Json) (id : Option String)
    (mine : ∀ r, Relation.ofNames index type = .ok r → used r) :
    Agrees used (Operation.step (.createDocument index type source id) s)
      (Ledger.step (.createDocument index type source id) l) := by
  rw [Operation.step, Operation.perform, return_in_memory, create_document_in_memory sound, Ledger.step]
  have given : id.filter (· ≠ "") ≠ some "" := by simp [Option.filter_eq_some_iff]
  cases accepted : place index type (id.filter (· ≠ "")) with
  | error e => exact ⟨rfl, mirrors⟩
  | ok r =>
      have named := mine r (place_iff.mp accepted).2
      let sheet := (Ledger.sheet? l r).getD (.blank "")
      have held : (s.provide r "").memory.table r = ⟨sheet.drawn, sheet.rows⟩ :=
        provide_table.trans (table_held apart sound mirrors named "")
      have filled : "" ∉ sheet.ids := by
        simp only [sheet]
        cases present : Ledger.sheet? l r with
        | none => exact List.not_mem_nil
        | some sheet => exact mirrors.identified r sheet present
      simp only [insert_as_added held]
      refine ⟨rfl, ?_⟩
      exact mirrors_put apart sound mirrors named _ (sheet.add_options source _) (Sheet.add_identified filled source given)

theorem mentioned_of_found (mirrors : Mirrors used m l) {id : String} {d : Document} (found : Ledger.find? l r id = some d) :
    ∃ sheet, Ledger.sheet? l r = some sheet ∧ used r := by
  rw [Ledger.find?, Ledger.rows] at found
  cases present : Ledger.sheet? l r with
  | none => simp [present] at found
  | some sheet => exact ⟨sheet, rfl, mirrors.mentioned r (Option.isSome_of_eq_some present)⟩

theorem rewrite_mirrored (apart : Apart used) (sound : s.Sound) (mirrors : Mirrors used s.memory l) {id : String} {d : Document}
    (found : Ledger.find? l r id = some d) (change : List Document → List Document)
    (keeps : ∀ rows, (change rows).map (·.id) ⊆ rows.map (·.id)) :
    Mirrors used ((s.note r).put r ⟨(s.memory.table r).drawn, change (s.memory.table r).rows⟩).memory
      (Ledger.rewrite l r change) := by
  obtain ⟨sheet, present, mine⟩ := mentioned_of_found mirrors found
  have noted : s.note r = s.provide r "" := by
    rw [provide, mirrors.entry, present]
    rfl
  rw [noted, mirrors.table r sheet present, Ledger.rewrite, present]
  refine mirrors_put apart sound mirrors mine { sheet with rows := change sheet.rows } ?_ ?_
  · rw [present]
    rfl
  · exact fun unnamed => mirrors.identified r sheet present (keeps sheet.rows unnamed)

theorem update_document_agrees (apart : Apart used) (sound : s.Sound) (mirrors : Mirrors used s.memory l)
    (index type : String) (source : Json) (id : String) :
    Agrees used (Operation.step (.updateDocument index type source id) s)
      (Ledger.step (.updateDocument index type source id) l) := by
  rw [Operation.step, Operation.perform, return_in_memory, update_document_in_memory sound, Ledger.step]
  by_cases empty : id = ""
  · rw [if_pos empty, empty, nothing_unnamed mirrors]
    exact ⟨rfl, mirrors⟩
  · rw [if_neg empty, found_mirrored mirrors]
    cases found : Ledger.find? l ⟨index, type⟩ id with
    | none => exact ⟨rfl, (touch_memory s _).symm ▸ mirrors⟩
    | some d =>
        refine ⟨rfl, ?_⟩
        obtain ⟨sheet, present, _⟩ := mentioned_of_found mirrors found
        have held : (s.memory.table ⟨index, type⟩).find? id = some d := by
          rw [mirrors.table _ sheet present]
          rw [Ledger.find?, Ledger.rows, present] at found
          exact found
        have rewritten := Table.replace_rows (sound.distinct _) held (·.revised source) rfl
        have kept := rewrite_mirrored apart sound mirrors found
          (fun rows => rows.map fun e => if e.id = id then e.revised source else e) ?_
        · simp only [← rewritten] at kept
          exact kept
        · intro rows
          have same : (rows.map fun e => if e.id = id then e.revised source else e).map (·.id) = rows.map (·.id) := by
            rw [List.map_map]
            apply List.map_congr_left
            intro e _
            by_cases here : e.id = id <;> simp [here, Document.revised]
          rw [same]
          exact List.Subset.refl _

theorem delete_document_agrees (apart : Apart used) (sound : s.Sound) (mirrors : Mirrors used s.memory l)
    (index type id : String) :
    Agrees used (Operation.step (.deleteDocument index type id) s) (Ledger.step (.deleteDocument index type id) l) := by
  rw [Operation.step, Operation.perform, return_in_memory, delete_document_in_memory sound, Ledger.step]
  by_cases empty : id = ""
  · rw [if_pos empty, empty, nothing_unnamed mirrors]
    exact ⟨rfl, mirrors⟩
  · rw [if_neg empty, found_mirrored mirrors]
    cases found : Ledger.find? l ⟨index, type⟩ id with
    | none => exact ⟨rfl, (touch_memory s _).symm ▸ mirrors⟩
    | some d =>
        refine ⟨rfl, ?_⟩
        have kept := rewrite_mirrored apart sound mirrors found (List.filter (·.id ≠ id)) ?_
        · simp only [← Table.erase_rows id (sound.distinct _)] at kept
          exact kept
        · exact fun rows => (List.filter_sublist.map _).subset

theorem step_agrees (apart : Apart used) (sound : s.Sound) (mirrors : Mirrors used s.memory l) (op : Operation)
    (mine : ∀ r ∈ op.relation?, used r) : Agrees used (op.step s) (Ledger.step op l) := by
  have named {index type : String} (asked : op.relation? = (Relation.ofNames index type).toOption) (r : Relation)
      (valid : Relation.ofNames index type = .ok r) : used r := by
    apply mine
    rw [asked, valid]
    rfl
  cases op with
  | createCatalog => exact ⟨rfl, mirrors⟩
  | createIndex name options =>
      rw [Operation.step, Operation.perform, return_in_memory, create_index_in_memory, Ledger.step]
      cases checkIndexName name with
      | error e => exact ⟨rfl, mirrors⟩
      | ok =>
          simp only [mirrors.index]
          cases absent : Keyed.find? l name with
          | some book => exact ⟨rfl, mirrors⟩
          | none => exact ⟨rfl, mirrors_add_index mirrors options absent⟩
  | getIndex name =>
      refine ⟨?_, mirrors⟩
      rw [Ledger.step, ← mirrors.index]
      rfl
  | findIndices pattern =>
      refine ⟨?_, mirrors⟩
      rw [Ledger.step, ← indices_listed sound mirrors]
      rfl
  | createType index type options =>
      rw [Operation.step, Operation.perform, return_in_memory, create_type_in_memory sound, Ledger.step]
      cases valid : Relation.ofNames index type with
      | error e => exact ⟨rfl, mirrors⟩
      | ok r =>
          have mentioned := named rfl r valid
          obtain rfl := relation_of_names valid
          simp only [mirrors.entry]
          cases present : Ledger.sheet? l ⟨index, type⟩ with
          | none => exact ⟨rfl, mirrors_provide apart sound mirrors mentioned options present⟩
          | some sheet =>
              refine ⟨rfl, ?_⟩
              rw [provide, mirrors.entry, present]
              exact mirrors
  | getType index type =>
      refine ⟨?_, mirrors⟩
      rw [Ledger.step, ← mirrors.entry]
      rfl
  | replaceTypeOptions index type options =>
      rw [Operation.step, Operation.perform, return_in_memory, replace_options_in_memory, Ledger.step, mirrors.entry]
      cases present : Ledger.sheet? l ⟨index, type⟩ with
      | some sheet => exact ⟨rfl, mirrors_options mirrors present options⟩
      | none =>
          refine ⟨rfl, { mirrors with entry := fun q => ?_ }⟩
          rw [← mirrors.entry]
          by_cases same : q = ⟨index, type⟩
          · rw [same, Memory.entry_replaced_same, mirrors.entry, present]
            rfl
          · exact Memory.entry_replaced_other same
  | findTypes index pattern =>
      refine ⟨?_, mirrors⟩
      rw [Ledger.step, ← types_listed sound mirrors, ← Memory.listed_types]
      rfl
  | createDocument index type source id => exact create_document_agrees apart sound mirrors index type source id (named rfl)
  | getDocument index type id =>
      rw [Operation.step, Operation.perform, return_in_memory, get_document_in_memory sound, Ledger.step]
      by_cases empty : id = ""
      · rw [if_pos empty, empty, nothing_unnamed mirrors]
        exact ⟨rfl, mirrors⟩
      · rw [if_neg empty, found_mirrored mirrors]
        exact ⟨rfl, (touch_memory s _).symm ▸ mirrors⟩
  | documentExists index type id =>
      rw [Operation.step, Operation.perform, return_in_memory, document_exists_in_memory sound, Ledger.step]
      by_cases empty : id = ""
      · rw [if_pos empty, empty, nothing_unnamed mirrors]
        exact ⟨rfl, mirrors⟩
      · rw [if_neg empty, found_mirrored mirrors]
        exact ⟨rfl, (touch_memory s _).symm ▸ mirrors⟩
  | updateDocument index type source id => exact update_document_agrees apart sound mirrors index type source id
  | deleteDocument index type id => exact delete_document_agrees apart sound mirrors index type id
  | select index type predicate =>
      rw [Operation.step, Operation.perform, return_in_memory, select_in_memory sound, Ledger.step, rows_mirrored mirrors]
      exact ⟨rfl, (touch_memory s _).symm ▸ mirrors⟩

-- No two different pairs among those the operations name share a table.
def DistinctTables (ops : List Operation) : Prop :=
  ∀ a ∈ ops, ∀ b ∈ ops, ∀ p ∈ a.relation?, ∀ q ∈ b.relation?, p.table = q.table → p = q

instance (ops : List Operation) : Decidable (DistinctTables ops) :=
  inferInstanceAs (Decidable (∀ a ∈ ops, ∀ b ∈ ops, ∀ p ∈ a.relation?, ∀ q ∈ b.relation?, p.table = q.table → p = q))

theorem run_agrees (apart : Apart used) (ops : List Operation) (mine : ∀ op ∈ ops, ∀ r ∈ op.relation?, used r)
    (sound : s.Sound) (mirrors : Mirrors used s.memory l) :
    (play Operation.step ops s).1 = (play Ledger.step ops l).1 := by
  induction ops generalizing s l with
  | nil => rfl
  | cons op rest ih =>
      obtain ⟨answer, next⟩ := step_agrees apart sound mirrors op (mine op (List.mem_cons_self ..))
      have later := ih (fun op member => mine op (List.mem_cons_of_mem _ member)) (step_sound op sound) next
      exact congrArg₂ List.cons answer later

/-- Every operation of every run answers what the ledger answers, as long as no two pairs share a table. -/
theorem store_refines_ledger (ops : List Operation) (distinct : DistinctTables ops) :
    (play Operation.step ops .fresh).1 = (play Ledger.step ops .empty).1 := by
  have apart : Apart fun r => ∃ op ∈ ops, r ∈ op.relation? := by
    rintro p q ⟨a, first, left⟩ ⟨b, second, right⟩
    exact distinct a first b second p left q right
  exact run_agrees apart ops (fun op member _ mentioned => ⟨op, member, mentioned⟩) sound_fresh mirrors_empty

def mingledWrites : List Operation :=
  [.createDocument "a" "b_c" (.string "first") (some "1"), .createDocument "a_b" "d" .null (some "1"),
    .createDocument "a" "b_c" .null none, .updateDocument "a" "b_c" .null "1", .deleteDocument "a_b" "d" "1"]

theorem mingled_writes_refine : DistinctTables mingledWrites ∧
    (play Operation.step mingledWrites .fresh).1 = (play Ledger.step mingledWrites .empty).1 :=
  ⟨by decide, store_refines_ledger mingledWrites (by decide)⟩

end SearchStore.Store

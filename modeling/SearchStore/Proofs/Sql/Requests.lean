import SearchStore.Proofs.Sql.Mirrored
import SearchStore.Proofs.Sql.Rendering

/-!
Requests put to a memory and to a server that keep the same. Both answer the same, but for the order
in which documents are selected, and both keep the same afterwards.
-/

set_option autoImplicit false

namespace SearchStore

theorem Predicate.holds_without_conditions {p : Predicate} (none : p.conditions = []) (left right : TextCondition → Bool) :
    p.holds left = p.holds right := by
  have agree (leaf : TextCondition → Bool) : Agree (fun _ => true) leaf 0 p.conditions := by
    rw [none]
    intro i m there
    cases there
  exact (value_holds p (agree left)).symm.trans (value_holds p (agree right))

namespace Sql

open Server

variable {α β : Type} {used : Relation → Prop} {m m' : Memory} {v v' : Server} {habits : Habits} {q r : Relation} {t : Table}

theorem then_ran {I : Interface} {σ γ δ : Type} {answer : (r : I.Request) → StateM σ (I.Reply r)} {d : Dialogue I γ} {c : γ}
    {s s' : σ} (f : γ → Dialogue I δ) (first : (d.run answer).run s = (c, s')) :
    ((d >>= f).run answer).run s = ((f c).run answer).run s' := by
  rw [Dialogue.run_bind, StateT.run_bind, first]
  rfl

namespace DatabaseM

def on (habits : Habits) (d : DatabaseM α) (v : Server) : Except Failure α × Server := (d.run.run (Server.answer habits)).run v

theorem on_bind {d : DatabaseM α} {a : α} (f : α → DatabaseM β) (first : on habits d v = (.ok a, v')) :
    on habits (d >>= f) v = on habits (f a) v' := then_ran (ExceptT.bindCont f) first

theorem on_rows {s : Statement} {found : List s.Row} (ran : v.tick.run habits s = (.ok found, v')) :
    on habits (rows s) v = (.ok found, v') := by
  have asked : on habits (rows s) v =
      ((v.tick.run habits s).1.mapError (fun text => .queryFailure (.database text)), (v.tick.run habits s).2) := rfl
  rw [asked, ran]
  rfl

theorem on_failed {s : Statement} {text : String} (ran : v.tick.run habits s = (.error text, v')) :
    on habits (rows s) v = (.error (.queryFailure (.database text)), v') := by
  have asked : on habits (rows s) v =
      ((v.tick.run habits s).1.mapError (fun text => .queryFailure (.database text)), (v.tick.run habits s).2) := rfl
  rw [asked, ran]
  rfl

theorem on_row {s : Statement} {found : List s.Row} (ran : v.tick.run habits s = (.ok found, v')) :
    on habits (row s) v = (.ok found.head?, v') := on_bind _ (on_rows ran)

theorem on_execute {s : Statement} {found : List s.Row} (ran : v.tick.run habits s = (.ok found, v')) :
    on habits (execute s) v = (.ok (), v') := on_bind _ (on_rows ran)

theorem on_unabandoned {d : DatabaseM α} {a : α} (ran : on habits d v = (.ok a, v')) : on habits (orAbandon d) v = (.ok a, v') :=
  (then_ran _ ran).trans rfl

theorem on_kept {block : DatabaseM (Option α)} {a : α} (ran : on habits block v.opened = (.ok (some a), v')) :
    on habits (transaction block) v = (.ok (some a), v'.tick) := by
  have opened : on habits (send .begin) v = (.ok (), v.opened) := rfl
  exact (on_bind _ opened).trans (on_unabandoned ((on_bind _ ran).trans rfl))

theorem on_undone {block : DatabaseM (Option α)} (ran : on habits block v.opened = (.ok none, v')) :
    on habits (transaction block) v = (.ok none, v'.undone) := by
  have opened : on habits (send .begin) v = (.ok (), v.opened) := rfl
  exact (on_bind _ opened).trans (on_unabandoned ((on_bind _ ran).trans rfl))

end DatabaseM

open DatabaseM

def SameAnswer : (r : StorageRequest) → r.Answer → r.Answer → Prop
  | .selectDocuments _ _ => List.Perm
  | _ => Eq

theorem same_answer_refl (r : StorageRequest) (a : r.Answer) : SameAnswer r a a := by
  cases r with
  | selectDocuments => exact List.Perm.refl a
  | _ => rfl

def Agrees (habits : Habits) (used : Relation → Prop) (m : Memory) (v : Server) (r : StorageRequest) : Prop :=
  ∃ a v', (Server.serve habits r).run v = (.ok a, v') ∧ SameAnswer r (m.serve r).1 a ∧ Mirrored used (m.serve r).2 v'

theorem agrees_answered {r : StorageRequest} {a b : r.Answer} (answered : m.serve r = (a, m'))
    (ran : (Server.serve habits r).run v = (.ok b, v')) (same : b = a) (mirrored : Mirrored used m' v') :
    Agrees habits used m v r := by
  refine ⟨b, v', ran, ?_, ?_⟩
  · rw [answered, same]
    exact same_answer_refl r a
  · rw [answered]
    exact mirrored

theorem mirrored_tick (mirrored : Mirrored used m v) : Mirrored used m v.tick := mirrored_objects mirrored fun _ => rfl

theorem head_of_list {ρ : Type} (found : Option ρ) : found.toList.head? = found := by
  cases found <;> rfl

theorem indices_named (mirrored : Mirrored used m v) : ∃ rows, v.object? indexTable = some (.indices rows) ∧
    ∀ name, rows.filter (·.name == name) = (m.index? name).toList := by
  obtain ⟨rows, there, apart, found⟩ := mirrored.indices
  refine ⟨rows, there, fun name => ?_⟩
  rw [← found]
  refine filter_first (apart.imp ?_)
  intro a b different both
  exact different ((beq_iff_eq.mp both.1).trans (beq_iff_eq.mp both.2).symm)

theorem types_named {rows : List TypeEntry} (apart : rows.Pairwise fun a b => ¬ (a.index = b.index ∧ a.name = b.name))
    (index name : String) : rows.filter (ofType index name) = (rows.find? (ofType index name)).toList := by
  refine filter_first (apart.imp ?_)
  intro a b different both
  simp only [ofType, Bool.and_eq_true, beq_iff_eq] at both
  exact different ⟨both.1.1.trans both.2.1.symm, both.1.2.trans both.2.2.symm⟩

theorem fetch_index_agrees (mirrored : Mirrored used m v) (name : String) : Agrees habits used m v (.fetchIndex name) := by
  obtain ⟨rows, there, filtered⟩ := indices_named mirrored
  have ran : v.tick.run habits (.selectIndex name) = (.ok (rows.filter (·.name == name)), v.tick) := by
    have here : v.tick.object? indexTable = _ := there
    rw [Server.run, onIndices, here]
  refine agrees_answered rfl (on_row ran) ?_ (mirrored_tick mirrored)
  rw [filtered, head_of_list]

theorem type_fetched {rows : List TypeEntry} (there : v.object? typeTable = some (.types rows)) (index name : String) :
    (Server.serve habits (.fetchType index name)).run v = (.ok (rows.filter (ofType index name)).head?, v.tick) := by
  have ran : v.tick.run habits (.selectType index name) = (.ok (rows.filter (ofType index name)), v.tick) := by
    have here : v.tick.object? typeTable = _ := there
    rw [Server.run, onTypes, here]
  exact on_row ran

theorem fetch_type_agrees (mirrored : Mirrored used m v) (index name : String) : Agrees habits used m v (.fetchType index name) := by
  obtain ⟨rows, there, apart, found⟩ := mirrored.types
  refine agrees_answered rfl (type_fetched there index name) ?_ (mirrored_tick mirrored)
  rw [types_named apart, head_of_list, found]

theorem list_indices_agrees (mirrored : Mirrored used m v) (wildcard : String) :
    Agrees habits used m v (.listIndices (.ofWildcard wildcard)) := by
  obtain ⟨rows, there, apart, found⟩ := mirrored.indices
  have ran : v.tick.run habits (.listIndices (.ofWildcard wildcard)) =
      (.ok (orderByName ((rows.map (·.name)).filter (Pattern.ofWildcard wildcard).accepts)), v.tick) := by
    have here : v.tick.object? indexTable = _ := there
    simp only [Server.run, onIndices, here, likes_accepts]
  refine agrees_answered rfl (on_rows ran) ?_ (mirrored_tick mirrored)
  have ordered : orderByName ((rows.map (·.name)).filter (Pattern.ofWildcard wildcard).accepts) =
      (Keyed.keys m.indices).filter (Pattern.ofWildcard wildcard).accepts := by
    refine ordered_names ((List.pairwise_map.mpr apart).filter _) ((Keyed.keys_ordered mirrored.indicesOrdered).filter _) ?_
    intro name
    have listed : name ∈ rows.map (·.name) ↔ (rows.find? (·.name == name)).isSome := by simp [List.find?_isSome]
    rw [List.mem_filter, List.mem_filter, listed, found, Keyed.mem_keys mirrored.indicesOrdered, Memory.index?]
  rw [ordered]

theorem list_types_agrees (mirrored : Mirrored used m v) (index wildcard : String) :
    Agrees habits used m v (.listTypes index (.ofWildcard wildcard)) := by
  obtain ⟨rows, there, apart, found⟩ := mirrored.types
  have ran : v.tick.run habits (.listTypes index (.ofWildcard wildcard)) =
      (.ok (orderByName (((rows.filter (·.index == index)).map (·.name)).filter (Pattern.ofWildcard wildcard).accepts)), v.tick) := by
    have here : v.tick.object? typeTable = _ := there
    simp only [Server.run, onTypes, here, likes_accepts]
  have inOrder := Memory.types_of_ordered index mirrored.typesOrdered
  have distinct : ((rows.filter (·.index == index)).map (·.name)).Nodup := by
    rw [List.Nodup, List.pairwise_map, List.pairwise_filter]
    refine apart.imp fun {a b} different left right same => different ⟨?_, same⟩
    exact (beq_iff_eq.mp left).trans (beq_iff_eq.mp right).symm
  have ordered : orderByName (((rows.filter (·.index == index)).map (·.name)).filter (Pattern.ofWildcard wildcard).accepts) =
      (Keyed.keys (m.typesOf index)).filter (Pattern.ofWildcard wildcard).accepts := by
    refine ordered_names (distinct.filter _) ((Keyed.keys_ordered inOrder).filter _) ?_
    intro name
    have listed : name ∈ (rows.filter (·.index == index)).map (·.name) ↔ (rows.find? (ofType index name)).isSome := by
      simp [List.find?_isSome, ofType, and_assoc]
    rw [List.mem_filter, List.mem_filter, listed, found, Keyed.mem_keys inOrder, Memory.types_of_find]
  refine agrees_answered rfl (on_rows ran) ?_ (mirrored_tick mirrored)
  rw [ordered]
  exact (Memory.listed_types m index (.ofWildcard wildcard)).symm

theorem insert_index_ran {rows : List IndexEntry} (there : v.object? indexTable = some (.indices rows)) {name : String}
    (short : name.length ≤ longestName) (options : String) : v.run habits (.insertIndex name options) =
      if rows.any (·.name == name) then (.ok [], v)
      else (.ok [⟨name, options⟩], v.put indexTable (.indices (rows ++ [⟨name, options⟩]))) := by
  rw [Server.run, insertIndex, onIndices, there]
  exact if_neg (Nat.not_lt.mpr short)

theorem insert_index_agrees (separate : Separate used) (mirrored : Mirrored used m v) (name options : String)
    (short : name.length ≤ longestName) : Agrees habits used m v (.insertIndex name options) := by
  obtain ⟨rows, there, apart, found⟩ := mirrored.indices
  have ran := @insert_index_ran v.tick habits rows there name short options
  have taken : rows.any (·.name == name) = (m.index? name).isSome := by rw [← found, List.isSome_find?]
  cases present : m.index? name with
  | some entry =>
      rw [taken, present] at ran
      have answered : m.serve (.insertIndex name options) = (none, m) := by simp [Memory.serve, present]
      exact agrees_answered answered (on_row ran) rfl (mirrored_tick mirrored)
  | none =>
      rw [taken, present] at ran
      have answered : m.serve (.insertIndex name options) = (some ⟨name, options⟩, m.addIndex name options) := by
        simp [Memory.serve, present, Memory.addIndex]
      obtain ⟨apartToo, foundToo⟩ := index_rows_added present options apart found
      refine agrees_answered answered (on_row ran) rfl ?_
      exact mirrored_indices separate (mirrored_tick mirrored) (Keyed.insert_ordered name _ mirrored.indicesOrdered) apartToo foundToo

theorem store_options_agrees (separate : Separate used) (mirrored : Mirrored used m v) (index name options : String) :
    Agrees habits used m v (.storeTypeOptions index name options) := by
  obtain ⟨rows, there, apart, found⟩ := mirrored.types
  have here : v.tick.object? typeTable = _ := there
  have ran : v.tick.run habits (.updateType index name options) =
      (.ok ((rows.filter (ofType index name)).map fun t => { t with options }),
        v.tick.put typeTable (.types (rows.map (Memory.setOptions index name options)))) := by
    rw [Server.run, updateType, onTypes, here]
    rfl
  have entries (q : Relation) : (m.replaceOptions ⟨index, name⟩ options).typeOf? q = _ := Memory.entry_replaced
  have answered : m.serve (.storeTypeOptions index name options) =
      ((m.typeOf? ⟨index, name⟩).map fun _ => Relation.entry ⟨index, name⟩ options, m.replaceOptions ⟨index, name⟩ options) := by
    rw [← Memory.entry_replaced_same]
    rfl
  refine agrees_answered answered (on_row ran) ?_ ?_
  · rw [types_named apart, found]
    change ((m.typeOf? ⟨index, name⟩).toList.map _).head? = _
    cases present : m.typeOf? ⟨index, name⟩ with
    | none => rfl
    | some entry =>
        obtain ⟨indexed, named⟩ := (Memory.entry_of_find present).2
        simp [Relation.entry, indexed, named]
  · refine mirrored_types separate (mirrored_tick mirrored)
      (Memory.replace_options_ordered index name options mirrored.typesOrdered) ?_ ?_ ?_
    · rw [List.pairwise_map]
      simpa only [Memory.set_options_keeps] using apart
    · intro i n
      have kept : (ofType i n ∘ Memory.setOptions index name options) = ofType i n := by
        funext t
        simp only [Function.comp_apply, ofType, Memory.set_options_keeps]
      rw [List.find?_map, kept, found]
      exact (entries ⟨i, n⟩).symm
    · intro q
      exact (congrArg Option.isSome (entries q)).trans Option.isSome_map

theorem insert_type_ran {rows : List TypeEntry} {indices : List IndexEntry} (there : v.object? typeTable = some (.types rows))
    (listed : v.object? indexTable = some (.indices indices)) (shortType : r.type.length ≤ longestName)
    (shortIndex : r.index.length ≤ longestName) (present : indices.any (·.name == r.index) = true) (options : String) :
    v.run habits (.insertType r options) =
      if rows.any (ofType r.index r.type) then (.ok [], v)
      else (.ok [r.entry options], v.put typeTable (.types (rows ++ [r.entry options]))) := by
  have fits : ¬ (longestName < r.type.length ∨ longestName < r.index.length) := by omega
  rw [Server.run, Server.insertType, onTypes, there]
  dsimp only
  rw [onIndices, listed]
  dsimp only
  rw [if_neg fits, if_pos present]
  rfl

theorem ensure_ok {ρ : Type} (v : Server) (name : String) (o : Object) :
    (v.ensure name o : Outcome ρ) = (.ok [], (v.ensure name o : Outcome ρ).2) := by
  rw [ensure]
  split <;> rfl

theorem object_ensured {ρ : Type} (v : Server) (name key : String) (o : Object) :
    (v.ensure name o : Outcome ρ).2.object? key = if key = name then some ((v.object? name).getD o) else v.object? key := by
  rw [ensure]
  split
  · next old there =>
      rw [there, Option.getD_some]
      split
      · next same => rw [same, there]
      · rfl
  · next absent => rw [absent, Option.getD_none, object_put]

theorem type_made {w : Server} {options : String} {entry : TypeEntry}
    (ran : v.opened.tick.run habits (.insertType r options) = (.ok [entry], w))
    (numbers : ∀ o, w.object? r.sequence = some o → ∃ last, o = .sequence last) :
    ∃ v', on habits (insertType r options) v = (.ok (some entry), v') ∧ ∀ name, v'.object? name =
      if name = r.table then some ((w.object? r.table).getD (.documents r.sequence []))
      else if name = r.sequence then some ((w.object? r.sequence).getD (.sequence 0)) else w.object? name := by
  let numbered := (w.tick.ensure r.sequence (.sequence 0) : Outcome Unit).2
  let tabled := (numbered.tick.ensure r.table (.documents r.sequence []) : Outcome Unit).2
  have sequence (name : String) : numbered.object? name =
      if name = r.sequence then some ((w.object? r.sequence).getD (.sequence 0)) else w.object? name := object_ensured ..
  have number : w.tick.run habits (.createSequence r) = (.ok [], numbered) := ensure_ok ..
  have made : numbered.tick.run habits (.createTable r) = (.ok [], tabled) := by
    obtain ⟨last, there⟩ : ∃ last, numbered.tick.object? r.sequence = some (.sequence last) := by
      have own : numbered.tick.object? r.sequence = some ((w.object? r.sequence).getD (.sequence 0)) :=
        (sequence _).trans (if_pos rfl)
      rw [own]
      cases before : w.object? r.sequence with
      | none => exact ⟨0, rfl⟩
      | some o =>
          obtain ⟨last, rfl⟩ := numbers o before
          exact ⟨last, rfl⟩
    rw [Server.run, createTable, there]
    exact ensure_ok ..
  refine ⟨tabled.tick, ?_, ?_⟩
  · apply on_kept
    rw [on_bind _ (on_row ran)]
    exact (on_bind _ (on_execute number)).trans (on_bind _ (on_execute made))
  · intro name
    have last : tabled.tick.object? name =
        if name = r.table then some ((numbered.object? r.table).getD (.documents r.sequence [])) else numbered.object? name :=
      object_ensured numbered.tick r.table name _
    rw [last, sequence, sequence, if_neg (table_sequence_apart r)]

theorem new_type_inserted {w : Server} {options : String}
    (ran : v.opened.tick.run habits (.insertType r options) = (.ok [r.entry options], w))
    (noTable : w.object? r.table = none) (noSequence : w.object? r.sequence = none) :
    ∃ v', on habits (insertType r options) v = (.ok (some (r.entry options)), v') ∧ v'.Keeps r .empty ∧ SameBut r w v' := by
  obtain ⟨v', inserted, objects⟩ := type_made ran (by simp [noSequence])
  refine ⟨v', inserted, ⟨?_, ?_⟩, fun name table sequence => ?_⟩
  · rw [objects, if_pos rfl, noTable]
    rfl
  · rw [objects, if_neg (table_sequence_apart r).symm, if_pos rfl, noSequence]
    rfl
  · rw [objects, if_neg table, if_neg sequence]

theorem insert_type_agrees (separate : Separate used) (mirrored : Mirrored used m v) (mine : used r) (options : String)
    (shortType : r.type.length ≤ longestName) (shortIndex : r.index.length ≤ longestName) (indexed : (m.index? r.index).isSome) :
    Agrees habits used m v (.insertType r options) := by
  obtain ⟨rows, there, apart, found⟩ := mirrored.types
  obtain ⟨indices, listed, -, named⟩ := mirrored.indices
  have taken : rows.any (ofType r.index r.type) = (m.typeOf? r).isSome := by
    rw [Memory.typeOf?, ← found, List.isSome_find?]
  have present : indices.any (·.name == r.index) = true := by rw [← List.isSome_find?, named, indexed]
  have answered := Memory.serve_insert_type m r options
  have ran := @insert_type_ran v.opened.tick habits r rows indices there listed shortType shortIndex present options
  rw [taken] at ran
  cases typed : m.typeOf? r with
  | some entry =>
      -- Nothing was inserted, so the transaction is undone and the objects are those saved when it was opened.
      rw [typed] at answered ran
      refine agrees_answered answered (on_undone (on_bind _ (on_row ran))) rfl ?_
      exact mirrored_objects mirrored fun _ => rfl
  | none =>
      rw [typed] at answered ran
      obtain ⟨noTable, noSequence, -⟩ := mirrored.free r mine typed
      have catalog : typeTable ∈ [indexTable, typeTable] := by simp
      obtain ⟨table, sequence⟩ := relation_put (v := v) separate catalog (.types (rows ++ [r.entry options])) mine
      obtain ⟨v', inserted, keeps, others⟩ := new_type_inserted ran (table.trans noTable) (sequence.trans noSequence)
      exact agrees_answered answered inserted rfl (mirrored_type separate mirrored mine typed options apart found keeps others)

theorem rows_with (distinct : t.Distinct) (id : String) : t.rows.filter (·.id == id) = (t.find? id).toList := by
  refine filter_first ((List.pairwise_map.mp distinct).imp ?_)
  intro a b different both
  exact different ((beq_iff_eq.mp both.1).trans (beq_iff_eq.mp both.2).symm)

theorem rows_without {id : String} (absent : t.find? id = none) : ∀ d ∈ t.rows, d.id ≠ id := by
  intro d member same
  exact List.find?_eq_none.mp absent d member (beq_iff_eq.mpr same)

theorem on_documents {ρ : Type} (keeps : v.Keeps r t) (use : String → List Document → Outcome ρ) :
    v.onDocuments r use = use r.sequence t.rows := by
  rw [onDocuments, keeps.documents]

theorem keeps_tick (keeps : v.Keeps r t) : v.tick.Keeps r t := ⟨keeps.documents, keeps.drawn⟩

theorem tick_put {name : String} {o : Object} (own : name = r.table ∨ name = r.sequence) : SameBut r v (v.tick.put name o) :=
  same_but_put (v := v.tick) name o own

theorem put_again {name : String} {o : Object} (there : v.object? name = some o) (key : String) :
    (v.put name o).object? key = v.object? key := by
  rw [object_put]
  by_cases same : key = name
  · rw [if_pos same, same, there]
  · rw [if_neg same]

theorem any_taken (t : Table) (id : String) : t.rows.any (·.id == id) = t.hasId id := (List.isSome_find?).symm

theorem fetch_document_agrees (mirrored : Mirrored used m v) (typed : (m.typeOf? r).isSome) (id : String) :
    Agrees habits used m v (.fetchDocument r id) := by
  have ran : v.tick.run habits (.selectDocument r id) = (.ok ((m.table r).rows.filter (·.id == id)), v.tick) :=
    on_documents (keeps_tick (mirrored.kept r typed)) _
  refine agrees_answered rfl (on_row ran) ?_ (mirrored_tick mirrored)
  rw [rows_with (mirrored.distinct r typed), head_of_list]

theorem select_documents_agrees (mirrored : Mirrored used m v) (typed : (m.typeOf? r).isSome) {p : Predicate}
    (plain : p.conditions = []) : Agrees habits used m v (.selectDocuments r p) := by
  have ran : v.tick.run habits (.selectDocuments r p) =
      (.ok (habits.arrange v.tick.clock ((m.table r).rows.filter fun d => p.holds (habits.truth · d))), v.tick) :=
    on_documents (keeps_tick (mirrored.kept r typed)) _
  refine ⟨_, v.tick, on_rows ran, ?_, mirrored_tick mirrored⟩
  have same : ((m.table r).rows.filter fun d => p.holds (habits.truth · d)) =
      (m.table r).rows.filter fun d => p.matchesSource d.source :=
    List.filter_congr fun d _ => Predicate.holds_without_conditions plain _ _
  rw [same]
  exact (habits.arranged _ _).symm

theorem insert_supplied_agrees (separate : Separate used) (mirrored : Mirrored used m v) (typed : (m.typeOf? r).isSome)
    (id : String) (source : Json) (short : id.length ≤ longestId) : Agrees habits used m v (.insertDocument r (some id) source) := by
  have keeps := keeps_tick (mirrored.kept r typed)
  have distinct := mirrored.distinct r typed
  have ran : v.tick.run habits (.insertDocument r id source) =
      if (m.table r).hasId id then (.ok [], v.tick)
      else (.ok [⟨id, source, 1⟩], v.tick.put r.table (.documents r.sequence ((m.table r).rows ++ [⟨id, source, 1⟩]))) := by
    refine (on_documents keeps _).trans ?_
    rw [if_neg (Nat.not_lt.mpr short), any_taken]
  by_cases taken : (m.table r).hasId id = true
  · rw [if_pos taken] at ran
    have answered : m.serve (.insertDocument r (some id) source) = (none, m.setTable r (m.table r)) := by
      simp only [Memory.serve, Memory.insertDocument, if_pos taken]
    refine agrees_answered answered (on_row ran) rfl ?_
    exact mirrored_put separate mirrored typed distinct keeps fun _ _ _ => rfl
  · rw [if_neg taken] at ran
    have answered : m.serve (.insertDocument r (some id) source) =
        (some ⟨id, source, 1⟩, m.setTable r ((m.table r).insert ⟨id, source, 1⟩)) := by
      simp only [Memory.serve, Memory.insertDocument, if_neg taken]
    have absent : (m.table r).find? id = none := by rwa [Table.find_none, ← Table.has_id]
    refine agrees_answered answered (on_row ran) rfl ?_
    exact mirrored_put separate mirrored typed (Table.insert_distinct distinct absent) (keeps_put keeps _) (tick_put (Or.inl rfl))

theorem replace_document_agrees (separate : Separate used) (mirrored : Mirrored used m v) (typed : (m.typeOf? r).isSome)
    (id : String) (source : Json) (small : ∀ d ∈ (m.table r).find? id, d.version < greatestInteger) :
    Agrees habits used m v (.replaceDocument r id source) := by
  have keeps := keeps_tick (mirrored.kept r typed)
  have distinct := mirrored.distinct r typed
  have ran : v.tick.run habits (.updateDocument r id source) =
      (.ok (((m.table r).find? id).toList.map (·.revised source)), v.tick.put r.table
        (.documents r.sequence ((m.table r).rows.map fun d => if d.id = id then d.revised source else d))) := by
    refine (on_documents keeps _).trans ?_
    rw [rows_with distinct]
    have inRange : ¬ ((m.table r).find? id).toList.any (greatestInteger ≤ ·.version) = true := by
      rw [Bool.not_eq_true, List.any_eq_false]
      intro d member
      simpa using small d (Option.mem_toList.mp member)
    exact if_neg inRange
  cases found : (m.table r).find? id with
  | some d =>
      rw [found] at ran
      have answered : m.serve (.replaceDocument r id source) =
          (some (d.revised source), m.setTable r ((m.table r).replace (d.revised source))) := by
        simp only [Memory.serve, found, Document.revised]
      refine agrees_answered answered (on_row ran) rfl ?_
      rw [← Table.replace_rows distinct found (·.revised source) rfl]
      exact mirrored_put separate mirrored typed (Table.replace_distinct distinct) (keeps_put keeps _) (tick_put (Or.inl rfl))
  | none =>
      have unchanged : ((m.table r).rows.map fun d => if d.id = id then d.revised source else d) = (m.table r).rows := by
        refine (List.map_congr_left fun d member => ?_).trans (List.map_id _)
        exact if_neg (rows_without found d member)
      rw [found, unchanged] at ran
      have answered : m.serve (.replaceDocument r id source) = (none, m) := by simp only [Memory.serve, found]
      exact agrees_answered answered (on_row ran) rfl (mirrored_objects (mirrored_tick mirrored) (put_again keeps.documents))

theorem remove_document_agrees (separate : Separate used) (mirrored : Mirrored used m v) (typed : (m.typeOf? r).isSome)
    (id : String) : Agrees habits used m v (.removeDocument r id) := by
  have keeps := keeps_tick (mirrored.kept r typed)
  have distinct := mirrored.distinct r typed
  have ran : v.tick.run habits (.deleteDocument r id) =
      (.ok ((m.table r).find? id).toList, v.tick.put r.table (.documents r.sequence ((m.table r).rows.filter (·.id != id)))) := by
    refine (on_documents keeps _).trans ?_
    rw [rows_with distinct]
  cases found : (m.table r).find? id with
  | some d =>
      have answered : m.serve (.removeDocument r id) = (some d, m.setTable r ((m.table r).erase id)) := by
        simp only [Memory.serve, found]
      have erased : ((m.table r).rows.filter (·.id != id)) = ((m.table r).erase id).rows := by
        rw [Table.erase_rows id distinct]
        exact List.filter_congr fun d _ => (decide_not).symm
      rw [found, erased] at ran
      refine agrees_answered answered (on_row ran) rfl ?_
      exact mirrored_put separate mirrored typed (Table.erase_distinct distinct) (keeps_put keeps _) (tick_put (Or.inl rfl))
  | none =>
      have unchanged : (m.table r).rows.filter (·.id != id) = (m.table r).rows :=
        List.filter_eq_self.mpr fun d member => bne_iff_ne.mpr (rows_without found d member)
      rw [found, unchanged] at ran
      have answered : m.serve (.removeDocument r id) = (none, m) := by simp only [Memory.serve, found]
      exact agrees_answered answered (on_row ran) rfl (mirrored_objects (mirrored_tick mirrored) (put_again keeps.documents))

theorem draw_ran (keeps : v.Keeps r t) (source : Json) : v.run habits (.insertGenerated r source) =
    if t.hasId (toString (t.drawn + 1)) then (.ok [], v.put r.sequence (.sequence (t.drawn + 1)))
    else (.ok [⟨toString (t.drawn + 1), source, 1⟩], (v.put r.sequence (.sequence (t.drawn + 1))).put r.table
      (.documents r.sequence (t.rows ++ [⟨toString (t.drawn + 1), source, 1⟩]))) := by
  refine (on_documents keeps _).trans ?_
  rw [keeps.drawn]
  dsimp only
  rw [any_taken]

theorem generated_drawn (source : Json) {n : Nat} (draws : Nat) (keeps : v.Keeps r t) (after : t.drawn < n)
    (within : n ≤ t.drawn + draws) (free : t.hasId (toString n) = false)
    (taken : ∀ k, t.drawn < k → k < n → t.hasId (toString k) = true) :
    ∃ v', on habits (insertGenerated r source draws) v = (.ok (some ⟨toString n, source, 1⟩), v') ∧
      v'.Keeps r { t.insert ⟨toString n, source, 1⟩ with drawn := n } ∧ SameBut r v v' := by
  -- With each draw that fails the table has drawn one number more and is a table the same holds of.
  induction draws generalizing v t with
  | zero => omega
  | succ draws ih =>
      have drawn := keeps_drawn (keeps_tick keeps) (t.drawn + 1)
      have ran := @draw_ran _ habits _ _ (keeps_tick keeps) source
      by_cases next : n = t.drawn + 1
      · subst next
        rw [free] at ran
        refine ⟨_, on_bind _ (on_row ran), keeps_put drawn _, ?_⟩
        exact same_but_trans (tick_put (Or.inr rfl)) (same_but_put _ _ (Or.inl rfl))
      · rw [taken (t.drawn + 1) (Nat.lt_succ_self _) (by omega)] at ran
        obtain ⟨v', later, kept, others⟩ := ih drawn (by dsimp only; omega) (by dsimp only; omega) free
          fun k more less => taken k (by dsimp only at more; omega) less
        refine ⟨v', (on_bind _ (on_row ran)).trans later, kept, ?_⟩
        exact same_but_trans (tick_put (Or.inr rfl)) others

theorem next_free_within {t : Table} {draws : Nat} (near : ∃ k < draws, t.hasId (toString (t.drawn + 1 + k)) = false) :
    t.nextFree ≤ t.drawn + draws := by
  obtain ⟨k, few, untaken⟩ := near
  by_contra far
  have taken := t.next_free_least.2.2 (t.drawn + 1 + k) (by omega) (by omega)
  rw [untaken] at taken
  cases taken

theorem insert_generated_agrees (separate : Separate used) (mirrored : Mirrored used m v) (typed : (m.typeOf? r).isSome)
    (source : Json) (near : ∃ k < maxDraws, (m.table r).hasId (toString ((m.table r).drawn + 1 + k)) = false) :
    Agrees habits used m v (.insertDocument r none source) := by
  obtain ⟨after, free, least⟩ := (m.table r).next_free_least
  obtain ⟨v', drawn, keeps, others⟩ :=
    generated_drawn source maxDraws (mirrored.kept r typed) after (next_free_within near) free least
  refine agrees_answered rfl drawn rfl (mirrored_put separate mirrored typed ?_ keeps others)
  refine Table.insert_distinct (mirrored.distinct r typed) ?_
  rw [Table.find_none, ← Table.has_id, free]
  exact Bool.false_ne_true

theorem create_catalog_agrees (mirrored : Mirrored used m v) : Agrees habits used m v .createCatalog := by
  obtain ⟨indices, listed, -⟩ := mirrored.indices
  obtain ⟨types, there, -⟩ := mirrored.types
  have first : v.tick.run habits .createIndexTable = (.ok [], v.tick) := by
    have here : v.tick.object? indexTable = _ := listed
    rw [Server.run, ensure, here]
  have second : v.tick.tick.run habits .createTypeTable = (.ok [], v.tick.tick) := by
    have here : v.tick.tick.object? indexTable = _ := listed
    have hereToo : v.tick.tick.object? typeTable = _ := there
    rw [Server.run, onIndices, here]
    dsimp only
    rw [ensure, hereToo]
  refine agrees_answered rfl ((on_bind _ (on_execute first)).trans (on_execute second)) rfl ?_
  exact mirrored_tick (mirrored_tick mirrored)

end Sql

end SearchStore

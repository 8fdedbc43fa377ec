import SearchStore.Proofs.Sql.Kinds

/-!
Documents that are created without an id on a server. Numbers are drawn for them a limited number of
times, so one is found exactly when a number near enough is free; what was drawn is drawn for good.
-/

set_option autoImplicit false

namespace SearchStore

namespace Sql

open Server
open Store (Operation InUse play)

variable {used : Relation → Prop} {v v' v'' : Server} {habits : Habits} {r : Relation} {t : Table}
  {known known' known'' : KnownRelations} {index type : String}

def Server.table (v : Server) (r : Relation) : Table where
  drawn :=
    match v.object? r.sequence with
    | some (.sequence last) => last
    | _ => 0
  rows :=
    match v.object? r.table with
    | some (.documents _ rows) => rows
    | _ => []

theorem table_kept (keeps : v.Keeps r t) : v.table r = t := by
  rw [Server.table, keeps.documents, keeps.drawn]

theorem table_same (table : v'.object? r.table = v.object? r.table) (sequence : v'.object? r.sequence = v.object? r.sequence) :
    v'.table r = v.table r := by
  rw [Server.table, Server.table, table, sequence]

theorem draws_exhausted (source : Json) (draws : Nat) (keeps : v.Keeps r t)
    (taken : ∀ k, t.drawn < k → k ≤ t.drawn + draws → t.hasId (toString k) = true) :
    ∃ v', DatabaseM.on habits (insertGenerated r source draws) v = (.error (.queryFailure (.noFreeId r.table)), v') ∧
      v'.Keeps r { t with drawn := t.drawn + draws } := by
  induction draws generalizing v t with
  | zero => exact ⟨v, rfl, keeps⟩
  | succ draws ih =>
      have drawn := keeps_drawn (keeps_tick keeps) (t.drawn + 1)
      have ran := @draw_ran _ habits _ _ (keeps_tick keeps) source
      rw [taken (t.drawn + 1) (Nat.lt_succ_self _) (by omega), if_pos rfl] at ran
      have others (k : Nat) (more : t.drawn + 1 < k) (within : k ≤ t.drawn + 1 + draws) : t.hasId (toString k) = true :=
        taken k (by omega) (by omega)
      obtain ⟨v', later, kept⟩ := ih drawn others
      refine ⟨v', (DatabaseM.on_bind _ (DatabaseM.on_row ran)).trans later, ?_⟩
      rw [show t.drawn + (draws + 1) = t.drawn + 1 + draws from by omega]
      exact kept

theorem far_taken (far : ¬ NumberNear t) {k : Nat} (more : t.drawn < k) (within : k ≤ t.drawn + maxDraws) :
    t.hasId (toString k) = true := by
  by_contra free
  refine far ⟨k - (t.drawn + 1), by omega, ?_⟩
  rw [Nat.add_sub_of_le more]
  exact Bool.eq_false_of_not_eq_true free

theorem index_provided {rows : List IndexEntry} (there : v.object? indexTable = some (.indices rows)) {name : String}
    (short : name.length ≤ longestName) : ∃ inserted v' rows',
      (Server.serve habits (.insertIndex name "")).run v = (.ok inserted, v') ∧
      v'.object? indexTable = some (.indices rows') ∧ rows'.any (·.name == name) = true ∧
      ∀ key, key ≠ indexTable → v'.object? key = v.object? key := by
  have ran := @insert_index_ran v.tick habits rows there name short ""
  by_cases present : rows.any (·.name == name) = true
  · rw [if_pos present] at ran
    exact ⟨_, v.tick, rows, DatabaseM.on_row ran, there, present, fun _ _ => rfl⟩
  · rw [if_neg present] at ran
    refine ⟨_, _, _, DatabaseM.on_row ran, (object_put v.tick _ _ _).trans (if_pos rfl), by simp, fun key other => ?_⟩
    exact (object_put v.tick _ _ _).trans (if_neg other)

theorem type_provided {rows : List TypeEntry} {indices : List IndexEntry} (there : v.object? typeTable = some (.types rows))
    (listed : v.object? indexTable = some (.indices indices)) (shortType : r.type.length ≤ longestName)
    (shortIndex : r.index.length ≤ longestName) (present : indices.any (·.name == r.index) = true)
    (absent : rows.any (ofType r.index r.type) = false)
    (tableApart : r.table ≠ typeTable) (sequenceApart : r.sequence ≠ typeTable)
    (tables : ∀ o, v.object? r.table = some o → ∃ rows, o = .documents r.sequence rows)
    (sequences : ∀ o, v.object? r.sequence = some o → ∃ last, o = .sequence last) :
    ∃ v', (Server.serve habits (.insertType r "")).run v = (.ok (some (r.entry "")), v') ∧ v'.Keeps r (v.table r) := by
  have ran := @insert_type_ran v.opened.tick habits r rows indices there listed shortType shortIndex present ""
  rw [absent, if_neg Bool.false_ne_true] at ran
  have before (name : String) (other : name ≠ typeTable) :
      (v.opened.tick.put typeTable (.types (rows ++ [r.entry ""]))).object? name = v.object? name :=
    (object_put v.opened.tick _ _ _).trans (if_neg other)
  obtain ⟨v', made, objects⟩ := type_made ran fun o found => sequences o ((before _ sequenceApart).symm.trans found)
  refine ⟨v', made, ⟨?_, ?_⟩⟩
  · rw [objects, if_pos rfl, before _ tableApart, Server.table]
    cases found : v.object? r.table with
    | none => rfl
    | some o =>
        obtain ⟨rows, rfl⟩ := tables o found
        rfl
  · rw [objects, if_neg (table_sequence_apart r).symm, if_pos rfl, before _ sequenceApart, Server.table]
    cases found : v.object? r.sequence with
    | none => rfl
    | some o =>
        obtain ⟨last, rfl⟩ := sequences o found
        rfl

structure Ready (used : Relation → Prop) (known : KnownRelations) (v : Server) : Prop where
  settled : Settled used v
  indices : (v.kind? indexTable).isSome
  types : (v.kind? typeTable).isSome
  noted : ∀ index type r, known.find? index type = some r → r = ⟨index, type⟩ ∧ v.Has r

theorem ready_catalog (apart : KindsApart used) (ready : Ready used known v) :
    (∃ rows, v.object? indexTable = some (.indices rows)) ∧ ∃ rows, v.object? typeTable = some (.types rows) := by
  have unmistaken := settled_unmistaken apart ready.settled
  have indices := ready.indices
  have types := ready.types
  rw [kind?, Option.isSome_map, Option.isSome_iff_exists] at indices types
  obtain ⟨o, indexed⟩ := indices
  obtain ⟨p, typed⟩ := types
  obtain ⟨rows, rfl⟩ := unmistaken.indices o indexed
  obtain ⟨types, rfl⟩ := unmistaken.types p typed
  exact ⟨⟨rows, indexed⟩, types, typed⟩

theorem look_up_shown (unknown : known.find? index type = none) (valid : Relation.ofNames index type = .ok r) {entry : TypeEntry}
    (fetched : (Server.serve habits (.fetchType index type)).run v = (.ok (some entry), v')) :
    Goes habits (KnownRelations.lookUp index type) known v (.ok (some r)) (known.insert r) v' := by
  refine goes_bind goes_get ?_
  rw [unknown]
  exact goes_given valid (goes_bind (goes_ask fetched) (goes_bind (goes_note r) (goes_pure _)))

theorem look_up_absent (unknown : known.find? index type = none) (valid : Relation.ofNames index type = .ok r)
    (fetched : (Server.serve habits (.fetchType index type)).run v = (.ok none, v')) :
    Goes habits (KnownRelations.lookUp index type) known v (.ok none) known v' := by
  refine goes_bind goes_get ?_
  rw [unknown]
  exact goes_given valid (goes_bind (goes_ask fetched) (goes_pure _))

theorem establish_made {options : String} {inserted : Option IndexEntry} {entry : TypeEntry}
    (valid : Relation.ofNames index type = .ok r)
    (indexed : (Server.serve habits (.insertIndex index "")).run v = (.ok inserted, v'))
    (made : (Server.serve habits (.insertType r options)).run v' = (.ok (some entry), v'')) :
    Goes habits (KnownRelations.establish index type options) known v (.ok (r, .created entry)) (known.insert r) v'' :=
  goes_given valid (goes_bind (goes_ask indexed) (goes_bind (goes_ask made) (goes_bind (goes_note r) (goes_pure _))))

theorem obtain_made (apart : KindsApart used) (settled : Settled used v) (mine : used r) (unknown : known.find? index type = none)
    (valid : Relation.ofNames index type = .ok r) {indices : List IndexEntry} {rows : List TypeEntry}
    (listed : v.object? indexTable = some (.indices indices)) (there : v.object? typeTable = some (.types rows))
    (absent : rows.filter (ofType index type) = []) :
    ∃ v', Goes habits (KnownRelations.obtain index type) known v (.ok r) (known.insert r) v' ∧ v'.Keeps r (v.table r) := by
  obtain ⟨shortIndex, shortType⟩ := names_fit valid
  obtain rfl := Store.relation_of_names valid
  have fetched := @type_fetched v habits rows there index type
  rw [absent] at fetched
  obtain ⟨inserted, v', indices, indexed, listed, present, others⟩ := @index_provided v.tick habits indices listed index shortIndex
  have table : v'.object? (Relation.table ⟨index, type⟩) = v.object? _ := others _ (apart.catalog _ mine).1
  have sequence : v'.object? (Relation.sequence ⟨index, type⟩) = v.object? _ := others _ (sequence_not_catalog _).1
  have missing : rows.any (ofType index type) = false := List.any_eq_false.mpr (List.filter_eq_nil_iff.mp absent)
  obtain ⟨v'', made, keeps⟩ := @type_provided v' habits ⟨index, type⟩ rows indices
    ((others _ (by decide)).trans there) listed shortType shortIndex present missing
    (apart.catalog _ mine).2 (sequence_not_catalog _).2
    (fun o found => table_found apart settled mine (table.symm.trans found))
    (fun o found => sequence_found apart settled mine (sequence.symm.trans found))
  rw [table_same table sequence] at keeps
  refine ⟨v'', goes_bind (look_up_absent unknown valid fetched) ?_, keeps⟩
  exact goes_bind (establish_made valid indexed made) (goes_pure _)

theorem obtain_goes (apart : KindsApart used) (ready : Ready used known v) (valid : Relation.ofNames index type = .ok r)
    (mine : used r) : ∃ known' v',
      Goes habits (KnownRelations.obtain index type) known v (.ok r) known' v' ∧ v'.Keeps r (v.table r) := by
  have kept (has : v.Has r) : v.Keeps r (v.table r) := by
    obtain ⟨t, keeps⟩ := has_kept apart ready.settled mine has
    rwa [table_kept keeps]
  cases found : known.find? index type with
  | some q =>
      obtain ⟨rfl, has⟩ := ready.noted index type q found
      obtain rfl := Store.relation_of_names valid
      refine ⟨known, v, ?_, kept has⟩
      rw [Goes, StoreM.runWith, StoreM.obtain_noted found]
      rfl
  | none =>
      obtain ⟨⟨indices, listed⟩, rows, there⟩ := ready_catalog apart ready
      have fetched := @type_fetched v habits rows there index type
      cases shown : rows.filter (ofType index type) with
      | nil =>
          obtain ⟨v', made, keeps⟩ :=
            @obtain_made _ _ habits _ _ _ _ apart ready.settled mine found valid indices rows listed there shown
          exact ⟨_, v', made, keeps⟩
      | cons entry more =>
          rw [shown] at fetched
          obtain ⟨member, same⟩ := List.mem_filter.mp (shown ▸ List.mem_cons_self : entry ∈ rows.filter (ofType index type))
          simp only [ofType, Bool.and_eq_true, beq_iff_eq] at same
          obtain ⟨rfl, rfl⟩ := same
          obtain rfl := Store.relation_of_names valid
          have has : v.Has ⟨entry.index, entry.name⟩ :=
            ready.settled.provided _ (kind_of_object there) _ (List.mem_map_of_mem member)
          exact ⟨_, _, goes_bind (look_up_shown found valid fetched) (goes_pure _), keeps_tick (kept has)⟩

theorem create_unnamed_goes (apart : KindsApart used) (ready : Ready used known v) (valid : Relation.ofNames index type = .ok r)
    (mine : used r) (source : Json) {id : Option String} (unnamed : id = none ∨ id = some "") :
    let t := v.table r
    let d : Document := ⟨toString t.nextFree, source, 1⟩
    ∃ known' v', (NumberNear t → Goes habits (Store.createDocument index type source id) known v (.ok d) known' v' ∧
        v'.Keeps r { t.insert d with drawn := t.nextFree }) ∧
      (¬ NumberNear t → Goes habits (Store.createDocument index type source id) known v
          (.error (.queryFailure (.noFreeId r.table))) known' v' ∧ v'.Keeps r { t with drawn := t.drawn + maxDraws }) := by
  intro t d
  have blank : id.filter (· ≠ "") = none := by
    rcases unnamed with rfl | rfl <;> rfl
  obtain ⟨known', v', obtained, keeps⟩ := @obtain_goes used v habits r known index type apart ready valid mine
  obtain ⟨after, free, least⟩ := t.next_free_least
  by_cases near : NumberNear t
  · obtain ⟨v'', drawn, kept, -⟩ :=
      @generated_drawn v' habits r t source t.nextFree maxDraws keeps after (next_free_within near) free least
    refine ⟨known', v'', fun _ => ⟨?_, kept⟩, fun far => absurd near far⟩
    have served : (Server.serve habits (.insertDocument r none source)).run v' = (.ok (some d), v'') := drawn
    rw [Store.createDocument, blank]
    exact goes_bind obtained (goes_bind (goes_ask served) (goes_pure _))
  · obtain ⟨v'', failed, kept⟩ :=
      @draws_exhausted v' habits r t source maxDraws keeps fun k more within => far_taken near more within
    refine ⟨known', v'', fun close => absurd close near, fun _ => ⟨?_, kept⟩⟩
    have served : (Server.serve habits (.insertDocument r none source)).run v' =
        (.error (.queryFailure (.noFreeId r.table)), v'') := failed
    rw [Store.createDocument, blank]
    exact goes_bind obtained (goes_failed (goes_ask served))

theorem ready_after (habits : Habits) (ops : List Operation) :
    let s := (play (Operation.stepOn habits) (.createCatalog :: ops) (.empty, .empty)).2
    Ready (InUse ops) s.1 s.2 := by
  intro s
  obtain ⟨settled, noted⟩ := Store.settled_after habits (.createCatalog :: ops)
  have grown : Grown Store.initialized s.2 := (Store.play_onward habits ops .empty Store.initialized).grown
  refine ⟨settled_mono settled ?_, grown _ rfl, grown _ rfl, noted⟩
  rintro r ⟨op, member, created⟩
  rcases List.mem_cons.mp member with rfl | member
  · cases created
  · exact ⟨op, member, created⟩

theorem ready_mono {wider : Relation → Prop} (ready : Ready used known v) (covers : ∀ r, used r → wider r) :
    Ready wider known v :=
  ⟨settled_mono ready.settled covers, ready.indices, ready.types, ready.noted⟩

/-- A document without an id is created exactly when one of the numbers that are drawn next is free. -/
theorem unnamed_created_iff_number_near (habits : Habits) (ops : List Operation) (index type : String) (source : Json)
    (id : Option String) (r : Relation) (valid : Relation.ofNames index type = .ok r) (unnamed : id = none ∨ id = some "")
    (apart : KindsApart (InUse (ops ++ [.createDocument index type source id]))) :
    let s := (play (Operation.stepOn habits) (.createCatalog :: ops) (.empty, .empty)).2
    let t := s.2.table r
    let d : Document := ⟨toString t.nextFree, source, 1⟩
    let stepped := (Operation.createDocument index type source id).stepOn habits s
    (NumberNear t → stepped.1 = .ok (.document d) ∧ t.hasId d.id = false ∧
      stepped.2.2.table r = { t.insert d with drawn := t.nextFree }) ∧
    (¬ NumberNear t → stepped.1 = .error (.queryFailure (.noFreeId r.table)) ∧
      stepped.2.2.table r = { t with drawn := t.drawn + maxDraws }) := by
  intro s t d stepped
  have mine : InUse (ops ++ [.createDocument index type source id]) r :=
    ⟨_, List.mem_append_right ops (List.mem_singleton.mpr rfl), congrArg Except.toOption valid⟩
  have ready : Ready (InUse (ops ++ [.createDocument index type source id])) s.1 s.2 := by
    refine ready_mono (ready_after habits ops) ?_
    rintro q ⟨op, member, created⟩
    exact ⟨op, List.mem_append_left _ member, created⟩
  obtain ⟨known', v', found, missed⟩ := @create_unnamed_goes _ _ habits r _ index type apart ready valid mine source id unnamed
  constructor
  · intro near
    obtain ⟨created, keeps⟩ := found near
    have same : stepped = (.ok (.document d), known', v') := Operation.goes_step (goes_bind created (goes_pure _))
    rw [same]
    exact ⟨rfl, t.next_free_least.2.1, table_kept keeps⟩
  · intro far
    obtain ⟨failed, keeps⟩ := missed far
    have same : stepped = (.error (.queryFailure (.noFreeId r.table)), known', v') := Operation.goes_step (goes_failed failed)
    rw [same]
    exact ⟨rfl, table_kept keeps⟩

def twoNumbersTaken : List Operation := [.createDocument "i" "t" .null (some "2"), .createDocument "i" "t" .null (some "1")]

theorem third_number_drawn : NumberNear ⟨0, [⟨"2", .null, 1⟩, ⟨"1", .null, 1⟩]⟩ ∧
    ((Operation.createDocument "i" "t" (.bool true) (some "")).stepOn Store.backwards
      (play (Operation.stepOn Store.backwards) (.createCatalog :: twoNumbersTaken) (.empty, .empty)).2).1 =
        .ok (.document ⟨"3", .bool true, 1⟩) := by
  have near : NumberNear ⟨0, [⟨"2", .null, 1⟩, ⟨"1", .null, 1⟩]⟩ := ⟨2, by decide, by decide⟩
  have apart : KindsApart (InUse (twoNumbersTaken ++ [.createDocument "i" "t" (.bool true) (some "")])) :=
    kinds_apart_alone ⟨"i", "t"⟩ (by decide) (by decide)
  have created := unnamed_created_iff_number_near Store.backwards twoNumbersTaken "i" "t" (.bool true) (some "") ⟨"i", "t"⟩
    (by decide) (Or.inr rfl) apart
  exact ⟨near, (created.1 near).1⟩

def numbersTaken : List Operation := (List.range 16).map fun k => .createDocument "i" "t" .null (some (toString (k + 1)))

theorem generated_id_not_found : ¬ ∀ (habits : Habits) (ops : List Operation) (index type : String) (source : Json)
    (r : Relation), Relation.ofNames index type = .ok r → KindsApart (InUse (ops ++ [.createDocument index type source none])) →
      ∃ d, ((Operation.createDocument index type source none).stepOn habits
        (play (Operation.stepOn habits) (.createCatalog :: ops) (.empty, .empty)).2).1 = .ok (.document d) := by
  intro always
  have apart : KindsApart (InUse (numbersTaken ++ [.createDocument "i" "t" .null none])) :=
    kinds_apart_alone ⟨"i", "t"⟩ (by decide) (by decide)
  obtain ⟨d, created⟩ := always Store.backwards numbersTaken "i" "t" .null ⟨"i", "t"⟩ (by decide) apart
  have failed : ((Operation.createDocument "i" "t" .null none).stepOn Store.backwards
      (play (Operation.stepOn Store.backwards) (.createCatalog :: numbersTaken) (.empty, .empty)).2).1.isOk = false := by
    decide +kernel
  rw [created] at failed
  cases failed

end Sql

end SearchStore

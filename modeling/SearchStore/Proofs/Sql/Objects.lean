import SearchStore.Proofs.Sql.Agreement
import SearchStore.Proofs.Sql.Transactions

/-!
The objects of the database that a store works with. An object stays, and stays of its kind. New ones
are the tables of the catalog, and for a relation in use its sequence and its table; a type is listed
only when both of them are there, and so is whatever relation a store has noted.
-/

set_option autoImplicit false

namespace SearchStore

def StorageRequest.Within (used : Relation → Prop) (q : StorageRequest) : Prop :=
  ∀ r options, q = .insertType r options → used r

namespace Sql

inductive Kind where
  | indices
  | types (listed : List Relation)
  | documents (generator : String)
  | sequence

def Object.kind : Object → Kind
  | .indices _ => .indices
  | .types rows => .types (rows.map fun t => ⟨t.index, t.name⟩)
  | .documents generator _ => .documents generator
  | .sequence _ => .sequence

def Kind.Fits (used : Relation → Prop) (name : String) : Kind → Prop
  | .indices => name = indexTable
  | .types listed => name = typeTable ∧ ∀ r ∈ listed, used r
  | .documents generator => ∃ r, used r ∧ name = r.table ∧ generator = r.sequence
  | .sequence => ∃ r, used r ∧ name = r.sequence

namespace Server

variable {ρ : Type} {used : Relation → Prop} {v v' v'' : Server} {habits : Habits} {r : Relation} {name : String} {o : Object}

def kind? (v : Server) (name : String) : Option Kind := (v.object? name).map Object.kind

def Has (v : Server) (r : Relation) : Prop := (v.kind? r.table).isSome ∧ (v.kind? r.sequence).isSome

def Grown (v v' : Server) : Prop := ∀ name, (v.kind? name).isSome → (v'.kind? name).isSome

def Fitting (used : Relation → Prop) (v : Server) : Prop := ∀ name k, v.kind? name = some k → k.Fits used name

-- Every object fits its name, and a type that is listed has its table and its sequence. Within the
-- transaction that makes a type only the first holds.
structure Settled (used : Relation → Prop) (v : Server) : Prop where
  fitting : Fitting used v
  provided : ∀ listed, v.kind? typeTable = some (.types listed) → ∀ r ∈ listed, v.Has r

theorem settled_empty : Settled used .empty where
  fitting _ _ there := by cases there
  provided _ there := by cases there

theorem settled_mono {wider : Relation → Prop} (settled : Settled used v) (covers : ∀ r, used r → wider r) :
    Settled wider v where
  fitting name k there := by
    have fits := settled.fitting name k there
    cases k with
    | indices => exact fits
    | types listed => exact ⟨fits.1, fun r member => covers r (fits.2 r member)⟩
    | documents generator =>
        obtain ⟨r, mine, same, numbered⟩ := fits
        exact ⟨r, covers r mine, same, numbered⟩
    | sequence =>
        obtain ⟨r, mine, same⟩ := fits
        exact ⟨r, covers r mine, same⟩
  provided := settled.provided

theorem grown_trans (first : Grown v v') (second : Grown v' v'') : Grown v v'' :=
  fun name there => second name (first name there)

theorem has_grown (grown : Grown v v') (has : v.Has r) : v'.Has r := ⟨grown _ has.1, grown _ has.2⟩

theorem kind_of_object {v : Server} (there : v.object? name = some o) : v.kind? name = some o.kind := by
  rw [kind?, there]
  rfl

theorem kind_put (v : Server) (name key : String) (o : Object) :
    (v.put name o).kind? key = if key = name then some o.kind else v.kind? key := by
  rw [kind?, object_put]
  split <;> rfl

theorem kind_ensured (v : Server) (name key : String) (o : Object) : (v.ensure name o : Outcome ρ).2.kind? key =
    if key = name then some ((v.kind? name).getD o.kind) else v.kind? key := by
  rw [kind?, object_ensured]
  split
  · rw [kind?]
    cases v.object? name <;> rfl
  · rfl

def Unmoved (v v' : Server) : Prop := ∀ name, v'.kind? name = v.kind? name

theorem unmoved_refl (v : Server) : Unmoved v v := fun _ => rfl

theorem unmoved_put (there : v.kind? name = some o.kind) : Unmoved v (v.put name o) := by
  intro key
  rw [kind_put]
  split
  · next same => rw [same, there]
  · rfl

theorem unmoved_trans (first : Unmoved v v') (second : Unmoved v' v'') : Unmoved v v'' :=
  fun name => (second name).trans (first name)

theorem on_indices_unmoved {use : List IndexEntry → Outcome ρ}
    (there : ∀ rows, v.kind? indexTable = some .indices → Unmoved v (use rows).2) : Unmoved v (v.onIndices use).2 := by
  rw [onIndices]
  split
  · next found => exact there _ (kind_of_object found)
  · exact unmoved_refl v

theorem on_types_unmoved {use : List TypeEntry → Outcome ρ}
    (there : ∀ rows, v.kind? typeTable = some (Object.types rows).kind → Unmoved v (use rows).2) :
    Unmoved v (v.onTypes use).2 := by
  rw [onTypes]
  split
  · next found => exact there _ (kind_of_object found)
  · exact unmoved_refl v

theorem on_documents_unmoved {use : String → List Document → Outcome ρ}
    (there : ∀ generator rows, v.kind? r.table = some (.documents generator) → Unmoved v (use generator rows).2) :
    Unmoved v (v.onDocuments r use).2 := by
  rw [onDocuments]
  split
  · next found => exact there _ _ (kind_of_object found)
  · exact unmoved_refl v

-- From one to the other objects stay, and what is settled stays so.
structure Onward (used : Relation → Prop) (v v' : Server) : Prop where
  grown : Grown v v'
  settled : Settled used v → Settled used v'

theorem onward_refl (used : Relation → Prop) (v : Server) : Onward used v v := ⟨fun _ => id, id⟩

theorem onward_trans (first : Onward used v v') (second : Onward used v' v'') : Onward used v v'' :=
  ⟨grown_trans first.grown second.grown, fun settled => second.settled (first.settled settled)⟩

theorem onward_unmoved (unmoved : Unmoved v v') : Onward used v v' where
  grown name there := (unmoved name).symm ▸ there
  settled settled := by
    refine ⟨fun name k there => settled.fitting name k ((unmoved name).symm.trans there), fun listed there r member => ?_⟩
    obtain ⟨table, sequence⟩ := settled.provided listed ((unmoved _).symm.trans there) r member
    exact ⟨(unmoved _).symm ▸ table, (unmoved _).symm ▸ sequence⟩

theorem onward_tick (v : Server) : Onward used v v.tick := onward_unmoved fun _ => rfl

theorem ensured_kept {k : Kind} (there : v.kind? name = some k) (other : String) (o : Object) :
    (v.ensure other o : Outcome ρ).2.kind? name = some k := by
  rw [kind_ensured]
  split
  · next same => rw [← same, there, Option.getD_some]
  · exact there

theorem ensured_grown (v : Server) (name : String) (o : Object) : Grown v (v.ensure name o : Outcome ρ).2 := by
  intro key there
  obtain ⟨k, found⟩ := Option.isSome_iff_exists.mp there
  rw [ensured_kept found]
  rfl

theorem ensured_there (v : Server) (name : String) (o : Object) : ((v.ensure name o : Outcome ρ).2.kind? name).isSome := by
  rw [kind_ensured, if_pos rfl]
  rfl

theorem ensured_fitting (fitting : Fitting used v) (fits : o.kind.Fits used name) :
    Fitting used (v.ensure name o : Outcome ρ).2 := by
  intro key k there
  rw [kind_ensured] at there
  split at there
  · next same =>
      subst same
      cases before : v.kind? key with
      | some old =>
          rw [before] at there
          cases there
          exact fitting key old before
      | none =>
          rw [before] at there
          cases there
          exact fits
  · exact fitting key k there

theorem onward_ensured (fits : o.kind.Fits used name) (blank : ∀ listed, o.kind = .types listed → listed = []) :
    Onward used v (v.ensure name o : Outcome ρ).2 where
  grown := ensured_grown v name o
  settled settled := by
    refine ⟨ensured_fitting settled.fitting fits, fun listed there r member => ?_⟩
    cases before : v.kind? typeTable with
    | some k =>
        rw [ensured_kept before] at there
        exact has_grown (ensured_grown v name o) (settled.provided listed (before.trans there) r member)
    | none =>
        rw [kind_ensured] at there
        split at there
        · next same =>
            rw [← same, before] at there
            rw [blank listed (Option.some.inj there)] at member
            cases member
        · rw [before] at there
          cases there

theorem run_onward {s : Statement} (plain : ¬ s.Provides) : Onward used v (v.run habits s).2 := by
  cases s with
  | insertType | createSequence | createTable => exact absurd trivial plain
  | createIndexTable => exact onward_ensured rfl (by simp [Object.kind])
  | createTypeTable =>
      change Onward used v (v.onIndices _).2
      rw [onIndices]
      split
      · exact onward_ensured ⟨rfl, by simp⟩ (by simp [Object.kind])
      · exact onward_refl used v
  | insertIndex name options =>
      refine onward_unmoved (on_indices_unmoved fun rows there => ?_)
      split
      · exact unmoved_refl v
      · split
        · exact unmoved_refl v
        · exact unmoved_put there
  | selectIndex | listIndices => exact onward_unmoved (on_indices_unmoved fun rows there => unmoved_refl v)
  | selectType | listTypes => exact onward_unmoved (on_types_unmoved fun rows there => unmoved_refl v)
  | updateType index name options =>
      refine onward_unmoved (on_types_unmoved fun rows there => unmoved_put (there.trans ?_))
      have same : (rows.map fun t => (⟨t.index, t.name⟩ : Relation)) =
          (rows.map (Memory.setOptions index name options)).map fun t => ⟨t.index, t.name⟩ := by
        simp only [List.map_map, Function.comp_def, Memory.set_options_keeps]
      exact congrArg (some ∘ Kind.types) same
  | selectDocument | selectDocuments => exact onward_unmoved (on_documents_unmoved fun generator rows there => unmoved_refl v)
  | insertDocument r id source =>
      refine onward_unmoved (on_documents_unmoved fun generator rows there => ?_)
      split
      · exact unmoved_refl v
      · split
        · exact unmoved_refl v
        · exact unmoved_put there
  | insertGenerated r source =>
      refine onward_unmoved (on_documents_unmoved fun generator rows there => ?_)
      split
      · next last found =>
          have drawn : Unmoved v (v.put generator (.sequence (last + 1))) := unmoved_put ((kind_of_object found).trans rfl)
          dsimp only
          split
          · exact drawn
          · exact unmoved_trans drawn (unmoved_put ((drawn _).trans there))
      · exact unmoved_refl v
  | updateDocument r id source =>
      refine onward_unmoved (on_documents_unmoved fun generator rows there => ?_)
      dsimp only
      split
      · exact unmoved_refl v
      · exact unmoved_put there
  | deleteDocument r id =>
      exact onward_unmoved (on_documents_unmoved fun generator rows there => unmoved_put there)

theorem saved_ensured (v : Server) (name : String) (o : Object) : (v.ensure name o : Outcome ρ).2.saved = v.saved := by
  rw [ensure]
  split <;> rfl

theorem type_inserted {options : String} {entry : TypeEntry} {more : List TypeEntry}
    (ran : v.insertType r options = (.ok (entry :: more), v')) : ∃ rows, v.kind? typeTable = some (Object.types rows).kind ∧
      v' = v.put typeTable (.types (rows ++ [r.entry options])) := by
  rw [Server.insertType, onTypes] at ran
  split at ran
  · next rows found =>
      rw [onIndices] at ran
      split at ran
      · dsimp only at ran
        split at ran
        · cases ran
        · split at ran
          · cases ran
          · split at ran
            · cases ran
              exact ⟨rows, kind_of_object found, rfl⟩
            · cases ran
      · cases ran
  · cases ran

theorem table_created {found : List Unit} (ran : v.createTable r = (.ok found, v')) :
    v' = (v.ensure r.table (.documents r.sequence []) : Outcome Unit).2 := by
  rw [createTable] at ran
  split at ran
  · exact (congrArg Prod.snd ran).symm
  · cases ran

theorem saved_provided {s : Statement} (provides : s.Provides) : (v.run habits s).2.saved = v.saved := by
  cases s with
  | insertType r options =>
      change (v.insertType r options).2.saved = v.saved
      rw [Server.insertType, onTypes]
      split
      · rw [onIndices]
        split
        · dsimp only
          repeat' split
          all_goals rfl
        · rfl
      · rfl
  | createSequence r => exact saved_ensured ..
  | createTable r =>
      change (v.createTable r).2.saved = v.saved
      rw [createTable]
      split
      · exact saved_ensured ..
      · rfl
  | _ => cases provides

-- Statements that make a type, and then a rollback: the objects are those that were saved.
theorem restored {steps : List (Exchange Database)} {reply : Except String Unit}
    (provides : ∀ e ∈ steps, ∃ s : Statement, s.Provides ∧ e.request = .run s)
    (served : Dialogue.Served (answer habits) v (steps ++ [⟨.rollback, reply⟩]) v') : v'.objects = v.saved := by
  induction steps generalizing v with
  | nil =>
      cases served with
      | serve _ next _ _ _ replied rest =>
          cases rest
          exact congrArg (fun outcome => outcome.2.objects) replied.symm
  | cons e steps ih =>
      obtain ⟨⟨s, provided, same⟩, others⟩ := List.forall_mem_cons.mp provides
      obtain ⟨request, reply⟩ := e
      subst same
      cases served with
      | serve _ next _ _ _ replied rest =>
          obtain rfl : (v.tick.run habits s).2 = next := congrArg Prod.snd replied
          exact (ih others rest).trans (saved_provided provided)

-- This server opens and closes every transaction.
theorem control_succeeds {log : List (Exchange Database)} (served : Dialogue.Served (answer habits) v log v') (text : String) :
    ⟨.begin, .error text⟩ ∉ log ∧ ⟨.commit, .error text⟩ ∉ log ∧ ⟨.rollback, .error text⟩ ∉ log := by
  induction served with
  | rest s => simp
  | serve s next last e later replied on ih =>
      have here (c : Command) (e' : Database.Reply c) (same : (⟨c, e'⟩ : Exchange Database) = e) :
          ((answer habits c).run s).1 = e' := by
        subst same
        exact congrArg Prod.fst replied
      simp only [List.mem_cons, not_or]
      refine ⟨⟨fun same => ?_, ih.1⟩, ⟨fun same => ?_, ih.2.1⟩, fun same => ?_, ih.2.2⟩
      all_goals cases here _ _ same

end Server

theorem provision_provides {r : Relation} {options : String} {steps : List (Exchange Database)}
    {reply : Except Failure (Option TypeEntry)} (provision : Provision r options steps reply) :
    ∀ e ∈ steps, ∃ s : Statement, s.Provides ∧ e.request = .run s := by
  have inserts : (Statement.insertType r options).Provides := trivial
  have numbers : (Statement.createSequence r).Provides := trivial
  have tables : (Statement.createTable r).Provides := trivial
  cases provision with
  | refused | present => exact List.forall_mem_singleton.mpr ⟨_, inserts, rfl⟩
  | noSequence => simp [inserts, numbers]
  | noTable | made => simp [inserts, numbers, tables]

open Server

variable {used : Relation → Prop} {v v' : Server} {habits : Habits} {r : Relation} {options : String}

theorem made_onward (mine : used r) {w : Server} {entry : TypeEntry} {more : List TypeEntry}
    (inserted : v.insertType r options = (.ok (entry :: more), w)) :
    let numbered := (w.tick.ensure r.sequence (.sequence 0) : Outcome Unit).2
    let tabled := (numbered.tick.ensure r.table (.documents r.sequence []) : Outcome Unit).2
    Onward used v tabled ∧ tabled.Has r := by
  intro numbered tabled
  obtain ⟨rows, listed, rfl⟩ := type_inserted inserted
  let listing := v.put typeTable (.types (rows ++ [r.entry options]))
  have kinds (name : String) : listing.tick.kind? name =
      if name = typeTable then some (Object.types (rows ++ [r.entry options])).kind else v.kind? name := kind_put ..
  have grownNumbered : Grown listing.tick numbered := ensured_grown listing.tick _ _
  have grownTabled : Grown numbered tabled := ensured_grown numbered.tick _ _
  have has : tabled.Has r := ⟨ensured_there .., grownTabled _ (ensured_there ..)⟩
  have grown : Grown v tabled := by
    refine grown_trans (fun name there => ?_) (grown_trans grownNumbered grownTabled)
    rw [kinds]
    split
    · rfl
    · exact there
  have members (q : Relation) (member : q ∈ (rows ++ [r.entry options]).map fun t => (⟨t.index, t.name⟩ : Relation)) :
      q ∈ (rows.map fun t => (⟨t.index, t.name⟩ : Relation)) ∨ q = r := by
    rw [List.map_append, List.mem_append] at member
    exact member.imp_right List.mem_singleton.mp
  refine ⟨⟨grown, fun settled => ⟨?_, ?_⟩⟩, has⟩
  · have fitting : Fitting used listing.tick := by
      intro name k there
      rw [kinds] at there
      split at there
      · cases there
        refine ⟨‹_›, fun q member => ?_⟩
        rcases members q member with before | rfl
        · exact (settled.fitting _ _ listed).2 q before
        · exact mine
      · exact settled.fitting name k there
    exact ensured_fitting (ensured_fitting fitting ⟨r, mine, rfl⟩) ⟨r, mine, rfl, rfl⟩
  · intro types there q member
    have kept : tabled.kind? typeTable = some (Object.types (rows ++ [r.entry options])).kind :=
      ensured_kept (v := numbered.tick) (ensured_kept (v := listing.tick) ((kinds _).trans (if_pos rfl)) _ _) _ _
    rw [kept] at there
    cases there
    rcases members q member with before | rfl
    · exact has_grown grown (settled.provided _ listed q before)
    · exact has

theorem insert_type_onward (mine : used r) {reply : Except Failure (Option TypeEntry)}
    (ran : (Server.serve habits (.insertType r options)).run v = (reply, v')) :
    Onward used v v' ∧ ∀ entry, reply = .ok (some entry) → v'.Has r := by
  obtain ⟨log, passed, served⟩ := Dialogue.run_passes (Server.answer habits) (Sql.answer (.insertType r options)) v
  have answered : ((Sql.answer (.insertType r options)).run (Server.answer habits)).run v = (reply, v') := ran
  rw [answered] at passed served
  have succeeds := control_succeeds served
  have undone {outcome : Except Failure (Option TypeEntry)} {steps : List (Exchange Database)} {answered : Except String Unit}
      (provision : Provision r options steps outcome)
      (ran : Dialogue.Served (Server.answer habits) v (⟨.begin, .ok ()⟩ :: steps ++ [⟨.rollback, answered⟩]) v') :
      Onward used v v' := by
    cases ran with
    | serve _ opened _ _ _ began rest =>
        obtain rfl : v.opened = opened := congrArg Prod.snd began
        have objects : v'.objects = v.objects := restored (provision_provides provision) rest
        exact onward_unmoved fun name => by rw [kind?, object?, objects]; rfl
  cases insert_type_passes passed with
  | unopened text => exact absurd (List.mem_singleton_self _) (succeeds text).1
  | opened outcome _ steps ending provision ended =>
  cases ended with
  | notCommitted _ text => exact absurd (by simp) (succeeds text).2.1
  | notUndone text => exact absurd (by simp) (succeeds text).2.2
  | undone => exact ⟨undone provision served, fun _ made => by cases made⟩
  | abandoned e answered => exact ⟨undone provision served, fun _ made => by cases made⟩
  | committed =>
  cases provision with
  | made entry more sequence table =>
      cases served with
      | serve _ opened _ _ _ began rest =>
      obtain rfl : v.opened = opened := congrArg Prod.snd began
      cases rest with
      | serve _ listing _ _ _ inserted rest =>
      cases rest with
      | serve _ numbered _ _ _ numberedBy rest =>
      cases rest with
      | serve _ tabled _ _ _ tabledBy rest =>
      cases rest with
      | serve _ committed _ _ _ committedBy rest =>
      cases rest
      obtain rfl : tabled.tick = v' := congrArg Prod.snd committedBy
      obtain rfl := congrArg Prod.snd numberedBy
      obtain rfl := table_created tabledBy
      obtain ⟨onward, has⟩ := made_onward (v := v.opened.tick) mine inserted
      have began : Onward used v v.opened.tick := onward_unmoved fun _ => rfl
      exact ⟨onward_trans began (onward_trans onward (onward_tick _)), fun _ _ => has⟩

theorem serve_onward (q : StorageRequest) (mine : q.Within used) :
    Onward used v ((Server.serve habits q).run v).2 := by
  by_cases provides : q.Provides
  · cases q with
    | insertType r options => exact (insert_type_onward (mine r options rfl) rfl).1
    | _ => cases provides
  · refine Dialogue.kept_by_run (Server.answer habits) (Onward used v) (fun c w plain before => ?_) (served_plainly q provides)
      (onward_refl used v)
    cases c with
    | run s => exact onward_trans before (onward_trans (onward_tick w) (run_onward plain))
    | _ => cases plain

theorem selected_there (settled : Settled used v) {index name : String} {entry : TypeEntry} {more : List TypeEntry}
    (ran : v.run habits (.selectType index name) = (.ok (entry :: more), v')) : v' = v ∧ v.Has ⟨index, name⟩ := by
  change v.onTypes _ = _ at ran
  rw [onTypes] at ran
  split at ran
  · next rows found =>
      obtain ⟨selected, rfl⟩ := Prod.mk.inj ran
      have member : entry ∈ rows.filter (ofType index name) := by
        rw [Except.ok.inj selected]
        exact List.mem_cons_self ..
      obtain ⟨listed, same⟩ := List.mem_filter.mp member
      simp only [ofType, Bool.and_eq_true, beq_iff_eq] at same
      obtain ⟨rfl, rfl⟩ := same
      exact ⟨rfl, settled.provided _ (kind_of_object found) _ (List.mem_map_of_mem listed)⟩
  · cases ran

theorem reported_there (settled : Settled used v) {e : Exchange Storage} (reports : e.Reports r)
    (mine : e.request.Within used) (ran : (Server.serve habits e.request).run v = (e.reply, v')) : v'.Has r := by
  cases reports with
  | inserted options entry => exact (insert_type_onward (mine r options rfl) ran).2 entry rfl
  | fetched entry =>
      obtain ⟨log, passed, served⟩ := Dialogue.run_passes (Server.answer habits) (Sql.answer (.fetchType r.index r.type)) v
      have answered : ((Sql.answer (.fetchType r.index r.type)).run (Server.answer habits)).run v = (.ok (some entry), v') := ran
      rw [answered] at passed served
      rcases DatabaseM.passes_send.mp passed with ⟨text, rfl, same⟩ | ⟨found, rest, rfl, returned⟩
      · cases same
      · obtain ⟨rfl, same⟩ := DatabaseM.passes_pure.mp returned
        obtain ⟨more, rfl⟩ := List.head?_eq_some_iff.mp (Except.ok.inj same).symm
        cases served with
        | serve _ next _ _ _ replied rest =>
        cases rest
        have selected : v.tick.run habits (.selectType r.index r.type) = (.ok (entry :: more), v') := replied
        obtain ⟨rfl, has⟩ := selected_there ((onward_tick v).settled settled) selected
        exact has

theorem served_onward {calls : List (Exchange Storage)} (served : Dialogue.Served (Server.serve habits) v calls v')
    (mine : ∀ c ∈ calls, c.request.Within used) : Onward used v v' := by
  induction served with
  | rest v => exact onward_refl used v
  | serve v next last e later replied _ ih =>
      obtain ⟨here, others⟩ := List.forall_mem_cons.mp mine
      have first : Onward used v next := by
        have onward : Onward used v ((Server.serve habits e.request).run v).2 := serve_onward e.request here
        rwa [replied] at onward
      exact onward_trans first (ih others)

theorem served_reported {calls : List (Exchange Storage)} (served : Dialogue.Served (Server.serve habits) v calls v')
    (mine : ∀ c ∈ calls, c.request.Within used) (settled : Settled used v) :
    ∀ c ∈ calls, ∀ r, c.Reports r → v'.Has r := by
  induction served with
  | rest v => simp
  | serve v next last e later replied onwards ih =>
      obtain ⟨here, others⟩ := List.forall_mem_cons.mp mine
      have first : Onward used v next := served_onward (.serve v next next e [] replied (.rest next)) (by simpa using here)
      refine List.forall_mem_cons.mpr ⟨fun r reports => ?_, ih others (first.settled settled)⟩
      exact has_grown (served_onward onwards others).grown (reported_there settled reports here replied)

end Sql

namespace Store

open Sql Sql.Server

variable {habits : Habits} {ops : List Operation} {before after : KnownRelations} {calls : List (Exchange Storage)}
  {results : List Result}

theorem within_mono {used wider : Relation → Prop} {q : StorageRequest} (within : q.Within used)
    (covers : ∀ r, used r → wider r) : q.Within wider := fun r options same => covers r (within r options same)

theorem asks_within (op : Operation) : Asks (StorageRequest.Within fun r => op.created? = some r) op.perform := by
  refine asks_perform op ?_ ?_ ?_
  · rintro q plain r options rfl
    exact absurd trivial plain
  · rintro r created options q given ⟨⟩
    exact created
  · rintro index type options replaced r given ⟨⟩

theorem run_within (run : Run ops before calls results after) : ∀ c ∈ calls, c.request.Within (InUse ops) := by
  induction run with
  | nil known => simp
  | cons op ops before between after calls later result results first rest ih =>
      refine List.forall_mem_append.mpr ⟨fun c member => ?_, fun c member => ?_⟩
      · have here := Dialogue.puts_passed (asks_within op before) first c member
        exact within_mono here fun r created => ⟨op, List.mem_cons_self .., created⟩
      · refine within_mono (ih c member) fun r => ?_
        rintro ⟨other, inside, created⟩
        exact ⟨other, List.mem_cons_of_mem op inside, created⟩

theorem play_served (habits : Habits) (ops : List Operation) (known : KnownRelations) (v : Server) :
    let played := play (Operation.stepOn habits) ops (known, v)
    ∃ calls, Run ops known calls played.1 played.2.1 ∧ Dialogue.Served (Server.serve habits) v calls played.2.2 := by
  induction ops generalizing known v with
  | nil => exact ⟨[], .nil known, .rest v⟩
  | cons op ops ih =>
      obtain ⟨calls, passed, served⟩ := Dialogue.run_passes (Server.serve habits) (op.perform known) v
      obtain ⟨later, run, servedLater⟩ := ih (op.stepOn habits (known, v)).2.1 (op.stepOn habits (known, v)).2.2
      exact ⟨calls ++ later, .cons op ops known _ _ calls later _ _ passed run, Dialogue.served_append served servedLater⟩

theorem play_onward (habits : Habits) (ops : List Operation) (known : KnownRelations) (v : Server) :
    Onward (InUse ops) v (play (Operation.stepOn habits) ops (known, v)).2.2 := by
  obtain ⟨calls, run, served⟩ := play_served habits ops known v
  exact served_onward served (run_within run)

-- Over an empty database, types that are listed and relations that were noted have their objects, and all
-- objects are of the kind that goes with their name.
theorem settled_after (habits : Habits) (ops : List Operation) :
    let s := (play (Operation.stepOn habits) ops (.empty, .empty)).2
    Settled (InUse ops) s.2 ∧ ∀ index type r, s.1.find? index type = some r → r = ⟨index, type⟩ ∧ s.2.Has r := by
  intro s
  obtain ⟨calls, run, served⟩ := play_served habits ops .empty .empty
  refine ⟨(served_onward served (run_within run)).settled settled_empty, fun index type r found => ?_⟩
  rcases (run_growth run).entered found with before | ⟨named, c, member, reports⟩
  · cases before
  · exact ⟨relation_of_names named, served_reported served (run_within run) settled_empty c member r reports⟩

end Store

end SearchStore

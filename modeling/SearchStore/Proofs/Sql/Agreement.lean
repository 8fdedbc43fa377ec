import SearchStore.Proofs.Sql.Following
import SearchStore.Proofs.Store.Asked

/-!
Runs of the store on a server and in memory. From an empty catalog on, every operation has the same
result on both, unless a new index has an accepted name that its column cannot hold.
-/

set_option autoImplicit false

namespace SearchStore.Store

open Sql Sql.Server State StoreM

variable {used : Relation → Prop} {s : State} {v : Server} {habits : Habits}

-- Documents that are selected may come in another order.
def SameOutcome : Outcome → Outcome → Prop
  | .documents left, .documents right => left.Perm right
  | left, right => left = right

theorem same_outcome_refl (o : Outcome) : SameOutcome o o := by
  cases o with
  | documents documents => exact List.Perm.refl documents
  | _ => rfl

namespace Operation

-- What a database cannot be expected to do: find a free number after many taken ones, count a version
-- beyond its integers, or judge texts as a memory does.
def Ordinary (s : State) : Operation → Prop
  | .createDocument index type _ id => id.filter (· ≠ "") = none → NumberNear (s.memory.table ⟨index, type⟩)
  | .updateDocument index type source id =>
      ∀ d, (step (.updateDocument index type source id) s).1 = .ok (.document d) → d.version ≤ greatestInteger
  | .select _ _ p => p.conditions = []
  | _ => True

def Fits (op : Operation) : Prop :=
  ∀ name options, op = .createIndex name options → checkIndexName name = .ok () → name.length ≤ longestName

theorem mine_of_created {op : Operation} {index type : String} (same : op.created? = (Relation.ofNames index type).toOption)
    (mine : ∀ r ∈ op.created?, used r) : ∀ r, Relation.ofNames index type = .ok r → used r := by
  intro r valid
  apply mine
  rw [same, valid]
  rfl

theorem follows_outcome {α : Type} {op : StoreM α} {f : α → Outcome} (follows : Follows habits used Eq op s) :
    Follows habits used SameOutcome (do return f (← op)) s := by
  refine follows_return follows fun a b equal => ?_
  rw [equal]
  exact same_outcome_refl (f b)

theorem perform_follows (separate : Separate used) (sound : s.Sound) {op : Operation} (mine : ∀ r ∈ op.created?, used r)
    (ordinary : op.Ordinary s) (fits : op.Fits) : Follows habits used SameOutcome op.perform s := by
  cases op with
  | createCatalog => exact follows_bind (follows_ask fun v mirrored => create_catalog_agrees mirrored) fun _ _ => follows_pure rfl
  | createIndex name options => exact follows_outcome (follows_create_index separate options (fits name options rfl))
  | getIndex name => exact follows_outcome (follows_ask fun v mirrored => fetch_index_agrees mirrored name)
  | findIndices pattern => exact follows_outcome (follows_ask fun v mirrored => list_indices_agrees mirrored pattern)
  | createType index type options => exact follows_outcome (follows_create_type separate (mine_of_created rfl mine) options)
  | getType index type => exact follows_outcome (follows_ask fun v mirrored => fetch_type_agrees mirrored index type)
  | replaceTypeOptions index type options => exact follows_outcome (follows_replace_options separate index type options)
  | findTypes index pattern => exact follows_outcome (follows_ask fun v mirrored => list_types_agrees mirrored index pattern)
  | createDocument index type source id =>
      exact follows_outcome (follows_create_document separate sound (mine_of_created rfl mine) source id ordinary)
  | getDocument index type id => exact follows_outcome (follows_get_document sound index type id)
  | documentExists index type id =>
      refine follows_outcome (follows_return (follows_get_document sound index type id) fun a b equal => ?_)
      rw [equal]
  | updateDocument index type source id =>
      refine follows_outcome (follows_update_document separate sound index type source id fun d updated => ordinary d ?_)
      rw [step, perform, return_in_memory, updated]
      rfl
  | deleteDocument index type id => exact follows_outcome (follows_delete_document separate sound index type id)
  | select index type p => exact follows_return (follows_select sound index type ordinary) fun a b permuted => permuted

def stepOn (habits : Habits) (op : Operation) (s : KnownRelations × Server) : Result × KnownRelations × Server :=
  let ((result, known), v) := (op.perform.runWith (Server.serve habits) s.1).run s.2
  (result, known, v)

theorem goes_step {op : Operation} {known known' : KnownRelations} {v' : Server} {result : Result}
    (performed : Goes habits op.perform known v result known' v') : op.stepOn habits (known, v) = (result, known', v') := by
  rw [Operation.stepOn, performed]

end Operation

def Ordinarily : List Operation → State → Prop
  | [], _ => True
  | op :: rest, s => op.Ordinary s ∧ Ordinarily rest (op.step s).2

def InUse (ops : List Operation) (r : Relation) : Prop := ∃ op ∈ ops, op.created? = some r

abbrev SameResults : List Result → List Result → Prop := List.Forall₂ (SameResult SameOutcome)

def nameRefused : Failure := .queryFailure (.database "value too long for type character varying(255)")

theorem long_name_refused {name : String} (options : String) {rows : List IndexEntry} (known : KnownRelations)
    (there : v.object? indexTable = some (.indices rows)) (accepted : checkIndexName name = .ok ()) (long : longestName < name.length) :
    (Operation.stepOn habits (.createIndex name options) (known, v)).1 = .error nameRefused := by
  have ran : v.tick.run habits (.insertIndex name options) =
      (.error "value too long for type character varying(255)", v.tick) := by
    have here : v.tick.object? indexTable = _ := there
    rw [Server.run, insertIndex, onIndices, here]
    exact if_pos long
  have served : (Server.serve habits (.insertIndex name options)).run v = (.error nameRefused, v.tick) :=
    (then_ran (ExceptT.bindCont _) (DatabaseM.on_failed ran)).trans rfl
  have created : Goes habits (createIndex name options) known v (.error nameRefused) known v.tick :=
    goes_given accepted (goes_failed (goes_ask served))
  rw [Operation.goes_step (goes_failed created)]

theorem unfit_apart (mirrored : Mirrored used s.memory v) {op : Operation} (unfit : ¬ op.Fits) :
    ¬ SameResult SameOutcome (op.step s).1 (op.stepOn habits (s.known, v)).1 := by
  obtain ⟨name, options, rfl, accepted, long⟩ : ∃ name options, op = .createIndex name options ∧ checkIndexName name = .ok () ∧
      longestName < name.length := by simpa [Operation.Fits] using unfit
  obtain ⟨rows, there, -⟩ := mirrored.indices
  rw [long_name_refused options s.known there accepted long, Operation.step, Operation.perform, return_in_memory,
    create_index_in_memory, accepted]
  dsimp only
  intro same
  cases present : s.memory.index? name with
  | some entry =>
      rw [present] at same
      cases same
  | none =>
      rw [present] at same
      cases same

theorem run_agrees_iff (separate : Separate used) {ops : List Operation} (sound : s.Sound) (mirrored : Mirrored used s.memory v)
    (mine : ∀ r, InUse ops r → used r) (ordinary : Ordinarily ops s) :
    SameResults (play Operation.step ops s).1 (play (Operation.stepOn habits) ops (s.known, v)).1 ↔ ∀ op ∈ ops, op.Fits := by
  induction ops generalizing s v with
  | nil => simp [play, SameResults]
  | cons op rest ih =>
      obtain ⟨here, later⟩ := ordinary
      have named : ∀ r ∈ op.created?, used r := fun r member => mine r ⟨op, List.mem_cons_self .., member⟩
      have others : ∀ r, InUse rest r → used r := by
        rintro r ⟨op, member, created⟩
        exact mine r ⟨op, List.mem_cons_of_mem _ member, created⟩
      rw [play, play, List.forall_mem_cons]
      -- Up to the first name that does not fit both sides agree, and there they do not.
      by_cases fits : op.Fits
      · obtain ⟨result, v', ran, same, after⟩ := Operation.perform_follows separate sound named here fits v mirrored
        have stepped : op.stepOn habits (s.known, v) = (result, (op.step s).2.known, v') := by
          rw [Operation.stepOn, ran]
          rfl
        have following := ih (State.step_sound op sound) after others later
        rw [stepped]
        exact List.forall₂_cons.trans (and_congr (iff_of_true same fits) following)
      · refine iff_of_false ?_ fun both => fits both.1
        exact fun same => unfit_apart mirrored fits (List.forall₂_cons.mp same).1

def initialized : Server :=
  ((Server.empty.tick.put indexTable (.indices [])).tick.put typeTable (.types []))

theorem initialized_mirrored (separate : Separate used) : Mirrored used .empty initialized := by
  have objects (name : String) : initialized.object? name =
      if name = typeTable then some (.types []) else if name = indexTable then some (.indices []) else none :=
    object_put_two Server.empty indexTable typeTable name _ _
  refine mirrored_start ?_ ?_ fun r mine => ?_
  · rw [objects, if_neg (by decide), if_pos rfl]
  · rw [objects, if_pos rfl]
  · obtain ⟨tableIndices, sequenceIndices⟩ := separate.catalog r mine indexTable (by simp)
    obtain ⟨tableTypes, sequenceTypes⟩ := separate.catalog r mine typeTable (by simp)
    rw [objects, objects, if_neg tableTypes, if_neg tableIndices, if_neg sequenceTypes, if_neg sequenceIndices]
    exact ⟨rfl, rfl⟩

theorem catalog_created : Operation.stepOn habits .createCatalog (.empty, .empty) = (.ok .done, .empty, initialized) := rfl

/-- Over a server the store answers what it answers in memory, exactly when no name is accepted for a new
index that its column cannot hold. -/
theorem server_agrees_iff_names_fit (habits : Habits) (ops : List Operation) (separate : Separate (InUse ops))
    (ordinary : Ordinarily ops .fresh) :
    SameResults (play Operation.step (.createCatalog :: ops) .fresh).1
      (play (Operation.stepOn habits) (.createCatalog :: ops) (.empty, .empty)).1 ↔ ∀ op ∈ ops, op.Fits := by
  have later := @run_agrees_iff _ _ _ habits separate _ sound_fresh (initialized_mirrored separate) (fun _ mine => mine) ordinary
  rw [play, play, catalog_created]
  exact List.forall₂_cons.trans ((and_iff_right (.ok rfl)).trans later)

def backwards : Habits where
  arrange _ rows := rows.reverse
  arranged _ rows := List.reverse_perm rows
  truth _ _ := true

def draftsAndSearch : List Operation :=
  [.createDocument "drafts" "note" .null none, .createDocument "drafts" "note" .null none,
    .updateDocument "drafts" "note" (.bool true) "2", .select "drafts" "note" .matchAll]

theorem drafts_agree : Separate (InUse draftsAndSearch) ∧ Ordinarily draftsAndSearch .fresh ∧
    SameResults (play Operation.step (.createCatalog :: draftsAndSearch) .fresh).1
      (play (Operation.stepOn backwards) (.createCatalog :: draftsAndSearch) (.empty, .empty)).1 := by
  have only (r : Relation) (mine : InUse draftsAndSearch r) : r = ⟨"drafts", "note"⟩ := by
    obtain ⟨op, member, created⟩ := mine
    simp only [draftsAndSearch, List.mem_cons, List.not_mem_nil, or_false] at member
    rcases member with rfl | rfl | rfl | rfl
    · exact (Option.some.inj created).symm
    · exact (Option.some.inj created).symm
    · cases created
    · cases created
  have separate : Separate (InUse draftsAndSearch) := by
    constructor
    · intro p q left right _
      rw [only p left, only q right]
    · intro p q left right
      rw [only p left, only q right]
      decide
    · intro p left
      rw [only p left]
      decide
  have ordinary : Ordinarily draftsAndSearch .fresh := by
    refine ⟨fun _ => ⟨0, by decide, by decide⟩, fun _ => ⟨0, by decide, by decide⟩, ?_, rfl, trivial⟩
    intro d updated
    cases updated
    decide
  refine ⟨separate, ordinary, (server_agrees_iff_names_fit backwards draftsAndSearch separate ordinary).mpr ?_⟩
  intro op member name options same
  subst same
  simp [draftsAndSearch] at member

example : (play (Operation.stepOn backwards) (.createCatalog :: draftsAndSearch) (.empty, .empty)).1.getLast? =
    some (.ok (.documents [⟨"2", .bool true, 2⟩, ⟨"1", .null, 1⟩])) := by rfl

theorem unfit_index_apart {name : String} (unfit : ¬ (Operation.createIndex name "").Fits) :
    Separate (InUse [.createIndex name ""]) ∧ Ordinarily [.createIndex name ""] .fresh ∧
      ¬ SameResults (play Operation.step [.createCatalog, .createIndex name ""] .fresh).1
        (play (Operation.stepOn habits) [.createCatalog, .createIndex name ""] (.empty, .empty)).1 := by
  have unused (r : Relation) (mine : InUse [.createIndex name ""] r) : False := by
    obtain ⟨op, member, created⟩ := mine
    rw [List.mem_singleton.mp member] at created
    cases created
  have separate : Separate (InUse [.createIndex name ""]) :=
    ⟨fun p _ mine => (unused p mine).elim, fun p _ mine => (unused p mine).elim, fun p mine => (unused p mine).elim⟩
  refine ⟨separate, ⟨trivial, trivial⟩, fun results => ?_⟩
  rw [play, play, catalog_created] at results
  have same := (List.forall₂_cons.mp results).2
  rw [play, play] at same
  exact unfit_apart (initialized_mirrored separate) unfit (List.forall₂_cons.mp same).1

def longName : String := String.ofList (List.replicate 256 'a')

theorem long_name_accepted : checkIndexName longName = .ok () ∧ longestName < longName.length := by
  have letters : longName.toList = List.replicate 256 'a' := String.toList_ofList
  have named : ∀ c ∈ longName.toList, isNameChar c = true := by
    rw [letters]
    exact fun c member => List.eq_of_mem_replicate member ▸ rfl
  have filled : longName.toList.isEmpty = false := by
    rw [letters]
    rfl
  have first : longName.toList.head? = some 'a' := by
    rw [letters]
    rfl
  constructor
  · rw [checkIndexName, checkName, filled, List.all_eq_true.mpr named, first]
    rfl
  · rw [← String.length_toList, letters, List.length_replicate]
    decide

theorem long_index_name_answered_apart : ¬ ∀ (habits : Habits) (ops : List Operation), Separate (InUse ops) →
    Ordinarily ops .fresh → SameResults (play Operation.step (.createCatalog :: ops) .fresh).1
      (play (Operation.stepOn habits) (.createCatalog :: ops) (.empty, .empty)).1 := by
  intro always
  have unfit : ¬ (Operation.createIndex longName "").Fits := fun fits =>
    Nat.not_lt.mpr (fits longName "" rfl long_name_accepted.1) long_name_accepted.2
  obtain ⟨separate, ordinary, apart⟩ := @unfit_index_apart backwards longName unfit
  exact apart (always backwards _ separate ordinary)

end SearchStore.Store

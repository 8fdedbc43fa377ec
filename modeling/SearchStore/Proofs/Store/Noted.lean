import SearchStore.Proofs.Exchanges
import SearchStore.Proofs.Store.Operation
import SearchStore.Proofs.Store.Sound

/-!
The relations a store has noted, with any storage whatever. They only grow, and only by relations the
storage has reported a type of; what is noted of a pair is the relation of its names; and the
documents of a noted pair are asked for without the catalog.
-/

set_option autoImplicit false

namespace SearchStore

def StorageRequest.documents? : StorageRequest → Option Relation
  | .insertDocument r _ _ | .fetchDocument r _ | .replaceDocument r _ _ | .removeDocument r _ | .selectDocuments r _ => some r
  | _ => none

inductive Exchange.Reports (r : Relation) : Exchange Storage → Prop where
  | fetched (entry : TypeEntry) : Reports r ⟨.fetchType r.index r.type, .ok (some entry)⟩
  | inserted (options : String) (entry : TypeEntry) : Reports r ⟨.insertType r options, .ok (some entry)⟩

structure KnownRelations.Growth (before after : KnownRelations) (calls : List (Exchange Storage)) : Prop where
  kept : ∀ {index type r}, before.find? index type = some r → after.find? index type = some r
  entered : ∀ {index type r}, after.find? index type = some r → before.find? index type = some r ∨
    Relation.ofNames index type = .ok r ∧ ∃ e ∈ calls, e.Reports r

namespace KnownRelations

variable {before between after g : KnownRelations} {calls later : List (Exchange Storage)} {r : Relation}

theorem insert_other {index type : String} (apart : ⟨index, type⟩ ≠ r) : (g.insert r).find? index type = g.find? index type := by
  rw [insert]
  split
  · rfl
  · have other : (r.index == index && r.type == type) = false := by
      simp only [Bool.and_eq_false_iff, beq_eq_false_iff_ne]
      rw [← not_and_or]
      rintro ⟨rfl, rfl⟩
      exact apart rfl
    simp [find?, List.find?_append, other]

theorem growth_refl (g : KnownRelations) (calls : List (Exchange Storage)) : g.Growth g calls := ⟨id, Or.inl⟩

theorem growth_mono (grown : before.Growth after calls) (within : calls ⊆ later) : before.Growth after later := by
  refine ⟨grown.kept, fun found => (grown.entered found).imp_right ?_⟩
  rintro ⟨named, e, member, reports⟩
  exact ⟨named, e, within member, reports⟩

theorem growth_trans (first : before.Growth between calls) (second : between.Growth after calls) :
    before.Growth after calls := by
  refine ⟨fun found => second.kept (first.kept found), fun found => ?_⟩
  rcases second.entered found with there | fresh
  · exact first.entered there
  · exact Or.inr fresh

theorem growth_insert (named : Relation.ofNames r.index r.type = .ok r) {e : Exchange Storage} (member : e ∈ calls)
    (reports : e.Reports r) : g.Growth (g.insert r) calls := by
  constructor
  · intro index type q found
    by_cases same : ⟨index, type⟩ = r
    · subst same
      rwa [insert_known found]
    · rwa [insert_other same]
  · intro index type q found
    by_cases same : ⟨index, type⟩ = r
    · subst same
      rw [insert_finds] at found
      cases found
      exact Or.inr ⟨named, e, member, reports⟩
    · rw [insert_other same] at found
      exact Or.inl found

end KnownRelations

namespace StoreM

open KnownRelations

variable {α β : Type} {op : StoreM α} {f : α → StoreM β} {seen : List (Exchange Storage)} {index type options id : String}
  {before after : KnownRelations} {calls : List (Exchange Storage)} {r : Relation}

theorem passes_ask {r : StorageRequest} {result : Except Failure r.Answer} :
    Passes (ask r) before calls result after ↔ calls = [⟨r, result⟩] ∧ after = before := by
  constructor
  · intro passed
    cases passed with
    | ask _ _ reply later _ rest =>
        obtain ⟨rfl, same⟩ := Dialogue.passes_done.mp rest
        cases same
        exact ⟨rfl, rfl⟩
  · rintro ⟨rfl, rfl⟩
    exact Dialogue.Passes.ask (I := Storage) r _ result [] _ (.done _)

def Grows (seen : List (Exchange Storage)) (op : StoreM α) : Prop :=
  ∀ ⦃before calls result after⦄, Passes op before calls result after → before.Growth after (seen ++ calls)

theorem grows_pure (a : α) : Grows seen (pure a) := by
  intro before calls result after passed
  obtain ⟨rfl, rfl, rfl⟩ := passes_pure.mp passed
  exact growth_refl _ _

theorem grows_throw (e : Failure) : Grows seen (throw e : StoreM α) := by
  intro before calls result after passed
  obtain ⟨rfl, rfl, rfl⟩ := passes_throw.mp passed
  exact growth_refl _ _

theorem grows_ask (r : StorageRequest) : Grows seen (ask r) := by
  intro before calls result after passed
  obtain ⟨rfl, rfl⟩ := passes_ask.mp passed
  exact growth_refl _ _

theorem grows_bind (first : Grows seen op) (next : ∀ a, Grows seen (f a)) : Grows seen (op >>= f) := by
  intro before calls result after passed
  rcases passes_bind.mp passed with ⟨e, failed, rfl⟩ | ⟨a, between, start, later, rfl, left, right⟩
  · exact first failed
  · refine growth_trans (growth_mono (first left) ?_) (growth_mono (next a right) ?_)
    · exact List.append_subset.mpr ⟨by simp, by simp⟩
    · exact List.append_subset.mpr ⟨by simp, by simp⟩

theorem grows_request {r : StorageRequest} {f : r.Answer → StoreM β}
    (next : ∀ answer : r.Answer, Grows (seen ++ [⟨r, .ok answer⟩]) (f answer)) : Grows seen (ask r >>= f) := by
  intro before calls result after passed
  rcases passes_bind.mp passed with ⟨e, failed, rfl⟩ | ⟨answer, between, start, later, rfl, asked, right⟩
  · exact grows_ask r failed
  · obtain ⟨rfl, rfl⟩ := passes_ask.mp asked
    have grown := next answer right
    rwa [List.append_assoc] at grown

theorem grows_given {result : Except Failure α} (next : ∀ a, result = .ok a → Grows seen (f a)) :
    Grows seen (liftM result >>= f) := by
  cases result with
  | error e => exact grows_throw e
  | ok a => exact next a rfl

theorem grows_return (grows : Grows seen op) (g : α → β) : Grows seen (do return g (← op)) :=
  grows_bind grows fun _ => grows_pure _

theorem grows_known {f : KnownRelations → StoreM β} (next : ∀ g, Grows seen (f g)) :
    Grows seen (getThe KnownRelations >>= f) := fun _ _ _ _ passed => next _ passed

theorem grows_note (r : Relation) (named : Relation.ofNames r.index r.type = .ok r) {e : Exchange Storage} (reports : e.Reports r) :
    Grows (seen ++ [e]) (note r) := by
  intro before calls result after passed
  obtain ⟨rfl, same⟩ := Dialogue.passes_done.mp passed
  cases same
  have member : e ∈ seen ++ [e] ++ [] := by simp
  exact growth_insert named member reports

theorem grows_look_up : Grows seen (lookUp index type) := by
  refine grows_known fun g => ?_
  cases g.find? index type with
  | some r => exact grows_pure _
  | none =>
      refine grows_given fun r valid => grows_request fun answer => ?_
      obtain rfl := Store.relation_of_names valid
      cases answer with
      | none => exact grows_pure _
      | some entry => exact grows_bind (grows_note ⟨index, type⟩ valid (.fetched entry)) fun _ => grows_pure _

theorem grows_establish : Grows seen (establish index type options) := by
  refine grows_given fun r valid => grows_bind (grows_ask _) fun _ => grows_request fun created => ?_
  obtain rfl := Store.relation_of_names valid
  cases created with
  | some entry => exact grows_bind (grows_note ⟨index, type⟩ valid (.inserted options entry)) fun _ => grows_pure _
  | none =>
      refine grows_request fun fetched => ?_
      cases fetched with
      | some entry => exact grows_bind (grows_note ⟨index, type⟩ valid (.fetched entry)) fun _ => grows_pure _
      | none => exact grows_throw _

theorem grows_obtain : Grows seen (obtain index type) := by
  refine grows_bind grows_look_up fun looked => ?_
  cases looked with
  | some r => exact grows_pure r
  | none => exact grows_return grows_establish _

theorem grows_on {f : Option Relation → StoreM β} (next : ∀ looked, Grows seen (f looked)) :
    Grows seen (Store.relation? index type >>= f) := by
  refine grows_bind ?_ next
  rw [Store.relation?]
  cases Relation.ofNames index type with
  | error e => exact grows_pure none
  | ok r => exact grows_look_up

theorem grows_create_document {source : Json} {id : Option String} :
    Grows seen (Store.createDocument index type source id) := by
  rw [Store.createDocument]
  generalize id.filter (· ≠ "") = id
  cases id with
  | none =>
      refine grows_bind grows_obtain fun r => grows_bind (grows_ask _) fun inserted => ?_
      cases inserted with
      | some d => exact grows_pure d
      | none => exact grows_throw _
  | some id =>
      refine grows_given fun _ _ => grows_bind grows_obtain fun r => grows_bind (grows_ask _) fun inserted => ?_
      cases inserted with
      | some d => exact grows_pure d
      | none => exact grows_throw _

theorem grows_get_document : Grows seen (Store.getDocument index type id) := by
  rw [Store.getDocument]
  by_cases empty : id = ""
  · rw [if_pos empty]
    exact grows_pure none
  · rw [if_neg empty]
    refine grows_on fun looked => ?_
    cases looked with
    | none => exact grows_pure none
    | some r => exact grows_ask _

theorem grows_update_document {source : Json} : Grows seen (Store.updateDocument index type source id) := by
  rw [Store.updateDocument]
  by_cases empty : id = ""
  · rw [if_pos empty]
    exact grows_throw _
  · rw [if_neg empty]
    refine grows_on fun looked => ?_
    cases looked with
    | none => exact grows_throw _
    | some r =>
        refine grows_bind (grows_ask _) fun replaced => ?_
        cases replaced with
        | some d => exact grows_pure d
        | none => exact grows_throw _

theorem grows_delete_document : Grows seen (Store.deleteDocument index type id) := by
  rw [Store.deleteDocument]
  by_cases empty : id = ""
  · rw [if_pos empty]
    exact grows_pure none
  · rw [if_neg empty]
    refine grows_on fun looked => ?_
    cases looked with
    | none => exact grows_pure none
    | some r => exact grows_ask _

theorem grows_perform (op : Store.Operation) : Grows seen op.perform := by
  cases op with
  | createCatalog | getIndex | findIndices | getType | findTypes => exact grows_return (grows_ask _) _
  | createIndex name options =>
      refine grows_return (grows_given fun _ _ => grows_bind (grows_ask _) fun inserted => ?_) _
      cases inserted with
      | some entry => exact grows_pure entry
      | none => exact grows_throw _
  | createType index name options =>
      refine grows_return (grows_bind grows_establish fun established => ?_) _
      obtain ⟨r, creation⟩ := established
      cases creation with
      | created entry => exact grows_pure entry
      | existing entry => exact grows_throw _
  | replaceTypeOptions index name options =>
      refine grows_return (grows_bind (grows_ask _) fun stored => ?_) _
      cases stored with
      | some entry => exact grows_pure entry
      | none => exact grows_throw _
  | createDocument => exact grows_return grows_create_document _
  | getDocument => exact grows_return grows_get_document _
  | documentExists => exact grows_return (grows_return grows_get_document _) _
  | updateDocument => exact grows_return grows_update_document _
  | deleteDocument => exact grows_return grows_delete_document _
  | select =>
      refine grows_return (grows_on fun looked => ?_) _
      cases looked with
      | none => exact grows_pure []
      | some r => exact grows_ask _

variable {known : KnownRelations}

-- From what is known the operation asks for nothing but documents of the relation, and notes
-- nothing.
def Confined (known : KnownRelations) (r : Relation) (op : StoreM α) : Prop :=
  ∀ ⦃calls result after⦄, Passes op known calls result after → after = known ∧ ∀ e ∈ calls, e.request.documents? = some r

theorem confined_pure (a : α) : Confined known r (pure a) := by
  intro calls result after passed
  obtain ⟨rfl, rfl, rfl⟩ := passes_pure.mp passed
  exact ⟨rfl, by simp⟩

theorem confined_throw (e : Failure) : Confined known r (throw e : StoreM α) := by
  intro calls result after passed
  obtain ⟨rfl, rfl, rfl⟩ := passes_throw.mp passed
  exact ⟨rfl, by simp⟩

theorem confined_ask {q : StorageRequest} (about : q.documents? = some r) : Confined known r (ask q) := by
  intro calls result after passed
  obtain ⟨rfl, rfl⟩ := passes_ask.mp passed
  exact ⟨rfl, by simp [about]⟩

theorem confined_bind (first : Confined known r op) (next : ∀ a, Confined known r (f a)) : Confined known r (op >>= f) := by
  intro calls result after passed
  rcases passes_bind.mp passed with ⟨e, failed, rfl⟩ | ⟨a, between, start, later, rfl, left, right⟩
  · exact first failed
  · obtain ⟨rfl, started⟩ := first left
    obtain ⟨rfl, ended⟩ := next a right
    refine ⟨rfl, fun e member => ?_⟩
    rcases List.mem_append.mp member with earlier | afterwards
    · exact started e earlier
    · exact ended e afterwards

theorem confined_return (confined : Confined known r op) (g : α → β) : Confined known r (do return g (← op)) :=
  confined_bind confined fun _ => confined_pure _

theorem confined_given {result : Except Failure α} (next : ∀ a, Confined known r (f a)) :
    Confined known r (liftM result >>= f) := by
  cases result with
  | error e => exact confined_throw e
  | ok a => exact next a

theorem confined_after {a : α} (settled : op known = (pure a : StoreM α) known) (next : Confined known r (f a)) :
    Confined known r (op >>= f) := by
  intro calls result after passed
  have same : (op >>= f) known = f a known := by
    change (op known).bind _ = _
    rw [settled]
    rfl
  rw [Passes, same] at passed
  exact next passed

theorem look_up_noted (found : known.find? index type = some r) :
    lookUp index type known = (pure (some r) : StoreM (Option Relation)) known := by
  rw [lookUp]
  conv_lhs => whnf
  rw [found]

theorem obtain_noted (found : known.find? index type = some r) :
    obtain index type known = (pure r : StoreM Relation) known := by
  change (lookUp index type known).bind _ = _
  rw [look_up_noted found]
  rfl

theorem confined_on (found : known.find? index type = some r) {f : Option Relation → StoreM β}
    (absent : Confined known r (f none)) (present : Confined known r (f (some r))) :
    Confined known r (Store.relation? index type >>= f) := by
  rw [Store.relation?]
  cases Relation.ofNames index type with
  | error e => exact absent
  | ok q => exact confined_after (look_up_noted found) present

theorem confined_create_document (found : known.find? index type = some r) {source : Json} {id : Option String} :
    Confined known r (Store.createDocument index type source id) := by
  rw [Store.createDocument]
  generalize id.filter (· ≠ "") = id
  cases id with
  | none =>
      refine confined_after (obtain_noted found) (confined_bind (confined_ask rfl) fun inserted => ?_)
      cases inserted with
      | some d => exact confined_pure d
      | none => exact confined_throw _
  | some id =>
      refine confined_given fun _ => confined_after (obtain_noted found) (confined_bind (confined_ask rfl) fun inserted => ?_)
      cases inserted with
      | some d => exact confined_pure d
      | none => exact confined_throw _

theorem confined_get_document (found : known.find? index type = some r) :
    Confined known r (Store.getDocument index type id) := by
  rw [Store.getDocument]
  by_cases empty : id = ""
  · rw [if_pos empty]
    exact confined_pure none
  · rw [if_neg empty]
    exact confined_on found (confined_pure none) (confined_ask rfl)

theorem confined_update_document (found : known.find? index type = some r) {source : Json} :
    Confined known r (Store.updateDocument index type source id) := by
  rw [Store.updateDocument]
  by_cases empty : id = ""
  · rw [if_pos empty]
    exact confined_throw _
  · rw [if_neg empty]
    refine confined_on found (confined_throw _) (confined_bind (confined_ask rfl) fun replaced => ?_)
    cases replaced with
    | some d => exact confined_pure d
    | none => exact confined_throw _

theorem confined_delete_document (found : known.find? index type = some r) :
    Confined known r (Store.deleteDocument index type id) := by
  rw [Store.deleteDocument]
  by_cases empty : id = ""
  · rw [if_pos empty]
    exact confined_pure none
  · rw [if_neg empty]
    exact confined_on found (confined_pure none) (confined_ask rfl)

end StoreM

namespace Store

open StoreM KnownRelations

def Operation.documents? : Operation → Option (String × String)
  | .createDocument index type _ _ | .getDocument index type _ | .documentExists index type _
  | .updateDocument index type _ _ | .deleteDocument index type _ | .select index type _ => some (index, type)
  | _ => none

theorem confined_perform {op : Operation} {known : KnownRelations} {index type : String} {r : Relation}
    (about : op.documents? = some (index, type)) (found : known.find? index type = some r) :
    Confined known r op.perform := by
  cases op with
  | createCatalog | createIndex | getIndex | findIndices | createType | getType | replaceTypeOptions | findTypes => cases about
  | createDocument =>
      cases about
      exact confined_return (confined_create_document found) _
  | getDocument =>
      cases about
      exact confined_return (confined_get_document found) _
  | documentExists =>
      cases about
      exact confined_return (confined_return (confined_get_document found) _) _
  | updateDocument =>
      cases about
      exact confined_return (confined_update_document found) _
  | deleteDocument =>
      cases about
      exact confined_return (confined_delete_document found) _
  | select =>
      cases about
      exact confined_return (confined_on found (confined_pure []) (confined_ask rfl)) _

-- Operations one after another, with all that passes between them and the storage.
inductive Run : List Operation → KnownRelations → List (Exchange Storage) → List Result → KnownRelations → Prop where
  | nil (known : KnownRelations) : Run [] known [] [] known
  | cons (op : Operation) (ops : List Operation) (before between after : KnownRelations)
      (calls later : List (Exchange Storage)) (result : Result) (results : List Result)
      (first : StoreM.Passes op.perform before calls result between) (rest : Run ops between later results after) :
      Run (op :: ops) before (calls ++ later) (result :: results) after

theorem run_growth {ops : List Operation} {before after : KnownRelations} {calls : List (Exchange Storage)}
    {results : List Result} (run : Run ops before calls results after) : before.Growth after calls := by
  induction run with
  | nil known => exact growth_refl known []
  | cons op ops before between after calls later result results first rest ih =>
      have started : before.Growth between ([] ++ calls) := grows_perform op first
      refine growth_trans (growth_mono started ?_) (growth_mono ih ?_)
      · exact List.subset_append_left calls later
      · exact List.subset_append_right calls later

end Store

end SearchStore

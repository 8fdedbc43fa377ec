import SearchStore.Bulk.Process
import SearchStore.Proofs.Bulk.Parsed
import SearchStore.Proofs.Exchanges

/-!
Bulk requests action by action, with any storage. The requests of a bulk are those of its actions in
order, each run as the operation of the store it stands for, up to the first failure that ends it.
-/

set_option autoImplicit false

namespace SearchStore

namespace Bulk

open StoreM

-- The item of an action that wrote a document.
def writtenItem (a : Bulk.Action) (d : Document) : ItemEnvelope where
  kind := a.kind
  outcome := .put ⟨⟨1, 0, 1⟩, a.index, a.type, d.id, d.version, d.version == 1, if d.version == 1 then "created" else "updated"⟩
  status := if d.version == 1 then 201 else 200

-- The item of a deletion of an id, by the document that was removed.
def removedItem (a : Bulk.Action) (id : String) : Option Document → ItemEnvelope
  | some d => ⟨a.kind, .get ⟨a.index, a.type, d.id, some d.version, true, some d.source⟩, 200⟩
  | none => ⟨a.kind, .get ⟨a.index, a.type, id, none, false, none⟩, 404⟩

-- The item of an action that failed, with the type, the reason and the status that each kind of failure has.
def failedItem (a : Bulk.Action) : Failure → ItemEnvelope
  | .malformedInput cause => ⟨a.kind, .failed ⟨"json_parse_exception", cause.reason, a.index, "1", "1"⟩, 400⟩
  | .queryFailure cause => ⟨a.kind, .failed ⟨"db_query_exception", cause.reason, a.index, "1", "1"⟩, 500⟩
  | .illegalOperation cause => ⟨a.kind, .failed ⟨"illegal_query_exception", cause.reason, a.index, "1", "1"⟩, 400⟩
  | .transport text => ⟨a.kind, .failed ⟨"internal_io_exception", text, a.index, "1", "1"⟩, 500⟩
  | .internal cause => ⟨a.kind, .failed ⟨"internal_exception", cause.reason, a.index, "1", "1"⟩, 500⟩

-- The failures that end no request.
inductive Recoverable : Failure → Prop where
  | queryFailure (cause : QueryFault) : Recoverable (.queryFailure cause)
  | illegalOperation (cause : Illegal) : Recoverable (.illegalOperation cause)

theorem recoverable_iff {e : Failure} : e.isRecoverable = true ↔ Recoverable e := by
  constructor
  · intro recoverable
    cases e with
    | queryFailure cause => exact .queryFailure cause
    | illegalOperation cause => exact .illegalOperation cause
    | malformedInput | transport | internal => cases recoverable
  · rintro (_ | _) <;> rfl

-- What passes when an action runs by itself: what passes for the operation of the store it stands for. An
-- id that `index` leaves out is looked for as the empty one.
inductive Alone (a : Bulk.Action) (before after : KnownRelations) :
    List (Exchange Storage) → Except Failure ItemEnvelope → Prop where
  | create (source : Json) (calls : List (Exchange Storage)) (result : Except Failure Document)
      (kind : a.kind = .create) (filled : a.source = some source)
      (passed : Passes (Store.createDocument a.index a.type source a.id) before calls result after) :
      Alone a before after calls (result.map (writtenItem a))
  | update (source : Json) (id : String) (calls : List (Exchange Storage)) (result : Except Failure Document)
      (kind : a.kind = .update) (filled : a.source = some source) (named : a.id = some id)
      (passed : Passes (Store.updateDocument a.index a.type source id) before calls result after) :
      Alone a before after calls (result.map (writtenItem a))
  | delete (id : String) (calls : List (Exchange Storage)) (result : Except Failure (Option Document))
      (kind : a.kind = .delete) (named : a.id = some id)
      (passed : Passes (Store.deleteDocument a.index a.type id) before calls result after) :
      Alone a before after calls (result.map (removedItem a id))
  | unseen (e : Failure) (calls : List (Exchange Storage)) (kind : a.kind = .index)
      (looked : Passes (Store.documentExists a.index a.type (a.id.getD "")) before calls (.error e) after) :
      Alone a before after calls (.error e)
  | present (source : Json) (between : KnownRelations) (first later : List (Exchange Storage))
      (result : Except Failure Document) (kind : a.kind = .index) (filled : a.source = some source)
      (looked : Passes (Store.documentExists a.index a.type (a.id.getD "")) before first (.ok true) between)
      (passed : Passes (Store.updateDocument a.index a.type source (a.id.getD "")) between later result after) :
      Alone a before after (first ++ later) (result.map (writtenItem a))
  | absent (source : Json) (between : KnownRelations) (first later : List (Exchange Storage))
      (result : Except Failure Document) (kind : a.kind = .index) (filled : a.source = some source)
      (looked : Passes (Store.documentExists a.index a.type (a.id.getD "")) before first (.ok false) between)
      (passed : Passes (Store.createDocument a.index a.type source a.id) between later result after) :
      Alone a before after (first ++ later) (result.map (writtenItem a))

variable {a : Bulk.Action} {actions : List Bulk.Action} {before after : KnownRelations}
  {calls : List (Exchange Storage)}

theorem put_item (a : Bulk.Action) (d : Document) : putItem a d = writtenItem a d := rfl

theorem removed_item (a : Bulk.Action) (id : String) (removed : Option Document) :
    (⟨a.kind, .get (.ofDocument? a.index a.type id removed), if removed.isSome then 200 else 404⟩ : ItemEnvelope) =
      removedItem a id removed := by
  cases removed <;> rfl

theorem execute_create {source : Json} (kind : a.kind = .create) (filled : a.source = some source) :
    execute a = do return writtenItem a (← Store.createDocument a.index a.type source a.id) := by
  simp only [execute, kind, filled, Option.getD_some, put_item]

theorem execute_update {source : Json} {id : String} (kind : a.kind = .update) (filled : a.source = some source)
    (named : a.id = some id) :
    execute a = do return writtenItem a (← Store.updateDocument a.index a.type source id) := by
  simp only [execute, kind, filled, named, Option.getD_some, put_item]

theorem execute_delete {id : String} (kind : a.kind = .delete) (named : a.id = some id) :
    execute a = do return removedItem a id (← Store.deleteDocument a.index a.type id) := by
  simp only [execute, kind, named, Option.getD_some, ← removed_item]

theorem execute_index {source : Json} (kind : a.kind = .index) (filled : a.source = some source) :
    execute a = do
      let there ← Store.documentExists a.index a.type (a.id.getD "")
      if there then return writtenItem a (← Store.updateDocument a.index a.type source (a.id.getD ""))
      else return writtenItem a (← Store.createDocument a.index a.type source a.id) := by
  simp only [execute, kind, filled, Option.getD_some, put_item]

theorem filled_of_payload (acceptable : Acceptable a) (takes : a.kind.takesPayload = true) :
    ∃ source, a.source = some source :=
  Option.isSome_iff_exists.mp (acceptable.filled.trans takes)

theorem named_of_needed (acceptable : Acceptable a) (needs : a.kind.needsId = true) : ∃ id, a.id = some id :=
  Option.isSome_iff_exists.mp (acceptable.identified needs)

theorem execute_alone (acceptable : Acceptable a) {result : Except Failure ItemEnvelope} :
    Passes (execute a) before calls result after ↔ Alone a before after calls result := by
  constructor
  · intro passed
    cases kind : a.kind with
    | create =>
        obtain ⟨source, filled⟩ := filled_of_payload acceptable (by rw [kind]; rfl)
        rw [execute_create kind filled] at passed
        obtain ⟨r, created, rfl⟩ := passes_return.mp passed
        exact .create source calls r kind filled created
    | update =>
        obtain ⟨source, filled⟩ := filled_of_payload acceptable (by rw [kind]; rfl)
        obtain ⟨id, named⟩ := named_of_needed acceptable (by rw [kind]; rfl)
        rw [execute_update kind filled named] at passed
        obtain ⟨r, updated, rfl⟩ := passes_return.mp passed
        exact .update source id calls r kind filled named updated
    | delete =>
        obtain ⟨id, named⟩ := named_of_needed acceptable (by rw [kind]; rfl)
        rw [execute_delete kind named] at passed
        obtain ⟨r, deleted, rfl⟩ := passes_return.mp passed
        exact .delete id calls r kind named deleted
    | index =>
        obtain ⟨source, filled⟩ := filled_of_payload acceptable (by rw [kind]; rfl)
        rw [execute_index kind filled] at passed
        rcases passes_bind.mp passed with ⟨e, looked, rfl⟩ | ⟨there, between, first, later, rfl, looked, written⟩
        · exact .unseen e calls kind looked
        · cases there with
          | true =>
              obtain ⟨r, updated, rfl⟩ := passes_return.mp written
              exact .present source between first later r kind filled looked updated
          | false =>
              obtain ⟨r, created, rfl⟩ := passes_return.mp written
              exact .absent source between first later r kind filled looked created
  · intro alone
    cases alone with
    | create source _ r kind filled passed =>
        rw [execute_create kind filled]
        exact passes_return.mpr ⟨r, passed, rfl⟩
    | update source id _ r kind filled named passed =>
        rw [execute_update kind filled named]
        exact passes_return.mpr ⟨r, passed, rfl⟩
    | delete id _ r kind named passed =>
        rw [execute_delete kind named]
        exact passes_return.mpr ⟨r, passed, rfl⟩
    | unseen e _ kind looked =>
        obtain ⟨source, filled⟩ := filled_of_payload acceptable (by rw [kind]; rfl)
        rw [execute_index kind filled]
        exact passes_bind.mpr (Or.inl ⟨e, looked, rfl⟩)
    | present source between first later r kind filled looked passed =>
        rw [execute_index kind filled]
        exact passes_bind.mpr (Or.inr ⟨true, between, first, later, rfl, looked, passes_return.mpr ⟨r, passed, rfl⟩⟩)
    | absent source between first later r kind filled looked passed =>
        rw [execute_index kind filled]
        exact passes_bind.mpr (Or.inr ⟨false, between, first, later, rfl, looked, passes_return.mpr ⟨r, passed, rfl⟩⟩)

-- What a request makes of what became of an action: its item, or the end of the request.
inductive Settles (a : Bulk.Action) : Except Failure ItemEnvelope → Except Failure ItemEnvelope → Prop where
  | done (i : ItemEnvelope) : Settles a (.ok i) (.ok i)
  | recovered (e : Failure) (recoverable : Recoverable e) : Settles a (.error e) (.ok (failedItem a e))
  | ended (e : Failure) (final : ¬ Recoverable e) : Settles a (.error e) (.error e)

theorem failed_item (e : Failure) : (⟨a.kind, .failed (.ofError e a.index), e.status⟩ : ItemEnvelope) = failedItem a e := by
  cases e <;> rfl

theorem handler_settles (e : Failure) {result : Except Failure ItemEnvelope} :
    Passes (if e.isRecoverable then return ⟨a.kind, .failed (.ofError e a.index), e.status⟩ else throw e) before calls
      result after ↔ calls = [] ∧ Settles a (.error e) result ∧ after = before := by
  by_cases recoverable : Recoverable e
  · rw [if_pos (recoverable_iff.mpr recoverable), failed_item, passes_pure]
    constructor
    · rintro ⟨rfl, rfl, rfl⟩
      exact ⟨rfl, .recovered e recoverable, rfl⟩
    · rintro ⟨rfl, settles, rfl⟩
      cases settles with
      | recovered => exact ⟨rfl, rfl, rfl⟩
      | ended _ final => exact absurd recoverable final
  · rw [if_neg (mt recoverable_iff.mp recoverable), passes_throw]
    constructor
    · rintro ⟨rfl, rfl, rfl⟩
      exact ⟨rfl, .ended e recoverable, rfl⟩
    · rintro ⟨rfl, settles, rfl⟩
      cases settles with
      | recovered _ recoverable' => exact absurd recoverable' recoverable
      | ended => exact ⟨rfl, rfl, rfl⟩

theorem item_settles (acceptable : Acceptable a) {result : Except Failure ItemEnvelope} :
    Passes (item a) before calls result after ↔
      ∃ outcome, Alone a before after calls outcome ∧ Settles a outcome result := by
  refine passes_tryCatch.trans ?_
  simp only [execute_alone acceptable, handler_settles]
  constructor
  · rintro (⟨i, alone, rfl⟩ | ⟨e, between, first, later, rfl, alone, rfl, settles, rfl⟩)
    · exact ⟨.ok i, alone, .done i⟩
    · rw [List.append_nil]
      exact ⟨.error e, alone, settles⟩
  · rintro ⟨outcome, alone, settles⟩
    cases outcome with
    | ok i =>
        cases settles
        exact Or.inl ⟨i, alone, rfl⟩
    | error e => exact Or.inr ⟨e, after, calls, [], (List.append_nil calls).symm, alone, rfl, settles, rfl⟩

theorem alone_item {outcome : Except Failure ItemEnvelope} {i : ItemEnvelope}
    (alone : Alone a before after calls outcome) (succeeded : outcome = .ok i) :
    i.kind = a.kind ∧ i.isError = false := by
  have plain {α : Type} {r : Except Failure α} {f : α → ItemEnvelope}
      (good : ∀ x, (f x).kind = a.kind ∧ (f x).isError = false) (mapped : r.map f = .ok i) :
      i.kind = a.kind ∧ i.isError = false := by
    cases r with
    | error e => cases mapped
    | ok x =>
        cases mapped
        exact good x
  cases alone with
  | create | update | present | absent => exact plain (fun _ => ⟨rfl, rfl⟩) succeeded
  | delete => exact plain (fun removed => by cases removed <;> exact ⟨rfl, rfl⟩) succeeded
  | unseen => cases succeeded

-- One action of a request that ran, with what passed while it did.
structure Step where
  action : Bulk.Action
  before : KnownRelations
  after : KnownRelations
  calls : List (Exchange Storage)
  outcome : Except Failure ItemEnvelope

namespace Step

def Faithful (step : Step) : Prop := Alone step.action step.before step.after step.calls step.outcome

def GoesOn (step : Step) : Prop := ∀ e, step.outcome = .error e → Recoverable e

def failed (step : Step) : Bool :=
  match step.outcome with
  | .ok _ => false
  | .error _ => true

def item (step : Step) : ItemEnvelope :=
  match step.outcome with
  | .ok i => i
  | .error e => failedItem step.action e

theorem item_of_faithful {step : Step} (faithful : step.Faithful) :
    step.item.kind = step.action.kind ∧ step.item.isError = step.failed := by
  rw [item, failed]
  cases outcome : step.outcome with
  | error e => cases e <;> exact ⟨rfl, rfl⟩
  | ok i => exact alone_item faithful outcome

end Step

-- Faithful steps, each of which finds known what the one before it left known.
inductive Linked : KnownRelations → List Step → KnownRelations → Prop where
  | none (known : KnownRelations) : Linked known [] known
  | one (step : Step) (later : List Step) (last : KnownRelations) (faithful : step.Faithful)
      (rest : Linked step.after later last) : Linked step.before (step :: later) last

theorem linked_nil {known last : KnownRelations} (linked : Linked known [] last) : last = known := by
  generalize none : ([] : List Step) = steps at linked
  cases linked with
  | none => rfl
  | one => cases none

structure Completes (actions : List Bulk.Action) (steps : List Step) : Prop where
  all : steps.map (·.action) = actions
  recovered : ∀ step ∈ steps, step.GoesOn

-- The last step fails for good, and the actions after it have no step.
structure Aborts (actions : List Bulk.Action) (done : List Step) (last : Step) (e : Failure) : Prop where
  started : (done ++ [last]).map (·.action) <+: actions
  recovered : ∀ step ∈ done, step.GoesOn
  failed : last.outcome = .error e
  final : ¬ Recoverable e

theorem completes_nil {steps : List Step} : Completes [] steps ↔ steps = [] := by
  constructor
  · intro completes
    exact List.map_eq_nil_iff.mp completes.all
  · rintro rfl
    exact ⟨rfl, by simp⟩

theorem completes_cons {steps : List Step} : Completes (a :: actions) steps ↔
    ∃ step later, steps = step :: later ∧ step.action = a ∧ step.GoesOn ∧ Completes actions later := by
  constructor
  · rintro ⟨all, recovered⟩
    obtain ⟨step, later, rfl, first, rest⟩ := List.map_eq_cons_iff.mp all
    obtain ⟨goesOn, recovered⟩ := List.forall_mem_cons.mp recovered
    exact ⟨step, later, rfl, first, goesOn, rest, recovered⟩
  · rintro ⟨step, later, rfl, rfl, goesOn, rest⟩
    exact ⟨by rw [List.map_cons, rest.all], List.forall_mem_cons.mpr ⟨goesOn, rest.recovered⟩⟩

theorem aborts_nil {done : List Step} {last : Step} {e : Failure} : ¬ Aborts [] done last e := by
  intro aborts
  have none := List.prefix_nil.mp aborts.started
  simp at none

theorem aborts_cons {done : List Step} {last : Step} {e : Failure} : Aborts (a :: actions) done last e ↔
    (done = [] ∧ last.action = a ∧ last.outcome = .error e ∧ ¬ Recoverable e) ∨
    ∃ step later, done = step :: later ∧ step.action = a ∧ step.GoesOn ∧ Aborts actions later last e := by
  constructor
  · rintro ⟨started, recovered, failed, final⟩
    cases done with
    | nil =>
        obtain ⟨same, _⟩ := List.cons_prefix_cons.mp started
        exact Or.inl ⟨rfl, same, failed, final⟩
    | cons step later =>
        obtain ⟨same, started⟩ := List.cons_prefix_cons.mp started
        obtain ⟨goesOn, recovered⟩ := List.forall_mem_cons.mp recovered
        exact Or.inr ⟨step, later, rfl, same, goesOn, started, recovered, failed, final⟩
  · rintro (⟨rfl, rfl, failed, final⟩ | ⟨step, later, rfl, rfl, goesOn, rest⟩)
    · exact ⟨⟨actions, rfl⟩, by simp, failed, final⟩
    · refine ⟨List.cons_prefix_cons.mpr ⟨rfl, rest.started⟩, ?_, rest.failed, rest.final⟩
      exact List.forall_mem_cons.mpr ⟨goesOn, rest.recovered⟩

theorem settles_ok (step : Step) {i : ItemEnvelope} :
    Settles step.action step.outcome (.ok i) ↔ step.GoesOn ∧ i = step.item := by
  rw [Step.GoesOn, Step.item]
  cases step.outcome with
  | ok j =>
      constructor
      · rintro ⟨⟩
        exact ⟨nofun, rfl⟩
      · rintro ⟨-, rfl⟩
        exact .done _
  | error e =>
      constructor
      · rintro (_ | ⟨_, recoverable⟩)
        exact ⟨fun _ same => Except.error.inj same ▸ recoverable, rfl⟩
      · rintro ⟨recoverable, rfl⟩
        exact .recovered e (recoverable e rfl)

theorem settles_error (step : Step) {e : Failure} :
    Settles step.action step.outcome (.error e) ↔ step.outcome = .error e ∧ ¬ Recoverable e := by
  constructor
  · intro settles
    generalize step.outcome = outcome at settles ⊢
    cases settles with
    | ended _ final => exact ⟨rfl, final⟩
  · rintro ⟨failed, final⟩
    rw [failed]
    exact .ended e final

def callsOf (steps : List Step) : List (Exchange Storage) := steps.flatMap (·.calls)

inductive Answered (actions : List Bulk.Action) (steps : List Step) : Except Failure (List ItemEnvelope) → Prop where
  | completed (completes : Completes actions steps) : Answered actions steps (.ok (steps.map (·.item)))
  | aborted (done : List Step) (last : Step) (e : Failure) (ran : steps = done ++ [last])
      (aborts : Aborts actions done last e) : Answered actions steps (.error e)

theorem answered_nil {steps : List Step} {result : Except Failure (List ItemEnvelope)} :
    Answered [] steps result ↔ steps = [] ∧ result = .ok [] := by
  constructor
  · intro answered
    cases answered with
    | completed completes =>
        obtain rfl := completes_nil.mp completes
        exact ⟨rfl, rfl⟩
    | aborted done last e ran aborts => exact absurd aborts aborts_nil
  · rintro ⟨rfl, rfl⟩
    exact .completed (completes_nil.mpr rfl)

theorem answered_cons {steps : List Step} {result : Except Failure (List ItemEnvelope)} :
    Answered (a :: actions) steps result ↔
      (∃ step e, steps = [step] ∧ step.action = a ∧ step.outcome = .error e ∧ ¬ Recoverable e ∧
        result = .error e) ∨
      ∃ step later r, steps = step :: later ∧ step.action = a ∧ step.GoesOn ∧ Answered actions later r ∧
        result = r.map (step.item :: ·) := by
  constructor
  · intro answered
    cases answered with
    | completed completes =>
        obtain ⟨step, later, rfl, same, goesOn, rest⟩ := completes_cons.mp completes
        exact Or.inr ⟨step, later, .ok (later.map (·.item)), rfl, same, goesOn, .completed rest, rfl⟩
    | aborted done last e ran aborts =>
        rcases aborts_cons.mp aborts with ⟨rfl, same, failed, final⟩ | ⟨step, later, rfl, same, goesOn, rest⟩
        · exact Or.inl ⟨last, e, ran, same, failed, final, rfl⟩
        · exact Or.inr ⟨step, later ++ [last], .error e, ran, same, goesOn, .aborted later last e rfl rest, rfl⟩
  · rintro (⟨step, e, rfl, same, failed, final, rfl⟩ | ⟨step, later, r, rfl, same, goesOn, answered, rfl⟩)
    · exact .aborted [] step e rfl (aborts_cons.mpr (Or.inl ⟨rfl, same, failed, final⟩))
    · cases answered with
      | completed rest => exact .completed (completes_cons.mpr ⟨step, later, rfl, same, goesOn, rest⟩)
      | aborted done last e ran rest =>
          refine .aborted (step :: done) last e (by rw [ran, List.cons_append]) ?_
          exact aborts_cons.mpr (Or.inr ⟨step, done, rfl, same, goesOn, rest⟩)

theorem items_pass (acceptable : ∀ a ∈ actions, Acceptable a) {result : Except Failure (List ItemEnvelope)} :
    Passes (actions.mapM item) before calls result after ↔
      ∃ steps, Linked before steps after ∧ calls = callsOf steps ∧ Answered actions steps result := by
  induction actions generalizing before calls result with
  | nil =>
      rw [List.mapM_nil, passes_pure]
      constructor
      · rintro ⟨rfl, rfl, rfl⟩
        exact ⟨[], .none _, rfl, answered_nil.mpr ⟨rfl, rfl⟩⟩
      · rintro ⟨steps, linked, rfl, answered⟩
        obtain ⟨rfl, rfl⟩ := answered_nil.mp answered
        exact ⟨rfl, rfl, linked_nil linked⟩
  | cons a rest ih =>
      obtain ⟨here, others⟩ := List.forall_mem_cons.mp acceptable
      rw [List.mapM_cons, passes_bind]
      simp only [item_settles here]
      constructor
      · rintro (⟨e, ⟨outcome, alone, settled⟩, rfl⟩ | ⟨i, between, first, later, rfl, ⟨outcome, alone, settled⟩, passed⟩)
        · let step : Step := ⟨a, before, after, calls, outcome⟩
          obtain ⟨failed, final⟩ := (settles_error step).mp settled
          refine ⟨[step], .one step [] after alone (.none after), (List.append_nil calls).symm, ?_⟩
          exact answered_cons.mpr (Or.inl ⟨step, e, rfl, rfl, failed, final, rfl⟩)
        · let step : Step := ⟨a, before, between, first, outcome⟩
          obtain ⟨goesOn, rfl⟩ := (settles_ok step).mp settled
          obtain ⟨r, ran, rfl⟩ := passes_return.mp passed
          obtain ⟨steps, linked, rfl, answered⟩ := (ih others).mp ran
          refine ⟨step :: steps, .one step steps after alone linked, rfl, ?_⟩
          exact answered_cons.mpr (Or.inr ⟨step, steps, r, rfl, rfl, goesOn, answered, rfl⟩)
      · rintro ⟨steps, linked, rfl, answered⟩
        rcases answered_cons.mp answered with
          ⟨step, e, rfl, rfl, failed, final, rfl⟩ | ⟨step, later, r, rfl, rfl, goesOn, further, rfl⟩
        · cases linked with
          | one _ _ _ faithful linked =>
              obtain rfl := linked_nil linked
              have only : callsOf [step] = step.calls := List.append_nil step.calls
              rw [only]
              exact Or.inl ⟨e, ⟨step.outcome, faithful, (settles_error step).mpr ⟨failed, final⟩⟩, rfl⟩
        · cases linked with
          | one _ _ _ faithful linked =>
              refine Or.inr ⟨step.item, step.after, step.calls, callsOf later, rfl, ?_, ?_⟩
              · exact ⟨step.outcome, faithful, (settles_ok step).mpr ⟨goesOn, rfl⟩⟩
              · exact passes_return.mpr ⟨r, (ih others).mpr ⟨later, linked, rfl, further⟩, rfl⟩

theorem process_read {body : String} {index type : Option String} (parsed : parse body index type = .ok actions) :
    process body index type = runAll actions := by
  rw [process, parsed]
  rfl

theorem linked_faithful {steps : List Step} (linked : Linked before steps after) : ∀ step ∈ steps, step.Faithful := by
  induction linked with
  | none => exact fun step member => absurd member List.not_mem_nil
  | one step later last faithful _ ih => exact List.forall_mem_cons.mpr ⟨faithful, ih⟩

theorem errors_shown {steps : List Step} (faithful : ∀ step ∈ steps, step.Faithful) :
    (steps.map (·.item)).any (·.isError) = steps.any (·.failed) := by
  rw [List.any_map, Bool.eq_iff_iff, List.any_eq_true, List.any_eq_true]
  have shown (step : Step) (member : step ∈ steps) : step.item.isError = step.failed :=
    (Step.item_of_faithful (faithful step member)).2
  constructor
  · rintro ⟨step, member, wrong⟩
    exact ⟨step, member, (shown step member).symm.trans wrong⟩
  · rintro ⟨step, member, wrong⟩
    exact ⟨step, member, (shown step member).trans wrong⟩

/-- What passes when a body is processed, and what is answered: the actions run in order, each settled by itself, up to the
first failure that is not recoverable. -/
theorem process_runs_in_order {body : String} {index type : Option String}
    (parsed : parse body index type = .ok actions) {answer : Except Failure BulkEnvelope} :
    Passes (process body index type) before calls answer after ↔
      ∃ steps, Linked before steps after ∧ calls = callsOf steps ∧
        (∀ step ∈ steps, step.item.kind = step.action.kind ∧ step.item.isError = step.failed) ∧
        (Completes actions steps ∧ answer = .ok ⟨0, steps.any (·.failed), steps.map (·.item)⟩ ∨
          ∃ done last e, steps = done ++ [last] ∧ Aborts actions done last e ∧ answer = .error e) := by
  rw [process_read parsed, runAll, passes_return]
  simp only [items_pass (parse_acceptable parsed)]
  constructor
  · rintro ⟨r, ⟨steps, linked, rfl, answered⟩, rfl⟩
    have faithful := linked_faithful linked
    refine ⟨steps, linked, rfl, fun step member => Step.item_of_faithful (faithful step member), ?_⟩
    cases answered with
    | completed completes =>
        refine Or.inl ⟨completes, ?_⟩
        rw [← errors_shown faithful]
        rfl
    | aborted done last e ran aborts => exact Or.inr ⟨done, last, e, ran, aborts, rfl⟩
  · rintro ⟨steps, linked, rfl, _, ⟨completes, rfl⟩ | ⟨done, last, e, ran, aborts, rfl⟩⟩
    · refine ⟨_, ⟨steps, linked, rfl, .completed completes⟩, ?_⟩
      rw [← errors_shown (linked_faithful linked)]
      rfl
    · exact ⟨_, ⟨steps, linked, rfl, .aborted done last e ran aborts⟩, rfl⟩

def twoDeletions : String := "\x7b\"delete\":\x7b\"_id\":\"1\"\x7d\x7d\n\x7b\"delete\":\x7b\"_id\":\"2\"\x7d\x7d"

theorem two_deletions_parsed : parse twoDeletions (some "a") (some "b") =
    .ok [⟨.delete, "a", "b", some "1", none⟩, ⟨.delete, "a", "b", some "2", none⟩] :=
  accepted_of_option (by decide +kernel)

theorem lost_storage_ends_deletions :
    Passes (process twoDeletions (some "a") (some "b")) ⟨[⟨"a", "b"⟩]⟩
      [⟨.removeDocument ⟨"a", "b"⟩ "1", .error (.transport "gone")⟩] (.error (.transport "gone")) ⟨[⟨"a", "b"⟩]⟩ := by
  let known : KnownRelations := ⟨[⟨"a", "b"⟩]⟩
  let lost : Except Failure (Option Document) := .error (.transport "gone")
  let call : Exchange Storage := ⟨.removeDocument ⟨"a", "b"⟩ "1", lost⟩
  let step : Step := ⟨⟨.delete, "a", "b", some "1", none⟩, known, known, [call], .error (.transport "gone")⟩
  have passed : Passes (Store.deleteDocument "a" "b" "1") known [call] lost known :=
    Dialogue.Passes.ask (I := Storage) call.request (fun reply => .done (reply, known)) lost [] (lost, known) (.done _)
  have faithful : step.Faithful := .delete "1" [call] lost rfl rfl passed
  refine (process_runs_in_order two_deletions_parsed).mpr ⟨[step], .one step [] known faithful (.none known), rfl, ?_, ?_⟩
  · exact List.forall_mem_singleton.mpr ⟨rfl, rfl⟩
  · exact Or.inr ⟨[], step, .transport "gone", rfl, ⟨⟨_, rfl⟩, by simp, rfl, nofun⟩, rfl⟩

end Bulk

end SearchStore

import Mathlib.Data.List.TakeWhile
import SearchStore.Proofs.Json.Canonical
import SearchStore.Proofs.Rest.Failures

/-!
Creating an index together with the types its body declares. The body and the name of the index are
checked before anything is written, the name of a type only when its turn has come. So a creation is
all or nothing exactly when every declared name fits: one that does not leaves the index behind, and
the types declared before it.
-/

set_option autoImplicit false

namespace SearchStore.Rest

open Store Store.State RestM StoreM

variable {α β : Type} {s : State} {index text : String} {options : Option Json} {mappings : List (String × Json)}
  {service : Service} {body : Body} {q : Request}

def declared (options : Option Json) : List (String × Json) :=
  ((options.bind (·.get? "mappings")).bind (·.object?)).getD []

-- An index that can be created: its body is read, its name is accepted, and it does not exist.
structure Opens (service : Service) (body : Body) (index : String) (s : State) (text : String) (options : Option Json) :
    Prop where
  read : body.read service.bodyLimit = .ok text
  valued : valueOf text = .ok options
  named : checkIndexName index = .ok ()
  absent : s.memory.index? index = none

def fits (index : String) (m : String × Json) : Bool := decide (Relation.ofNames index m.1 = .ok ⟨index, m.1⟩)

def opened (s : State) (index text : String) : State := ⟨s.memory.addIndex index text, s.known⟩

def declare (index : String) (s : State) (m : String × Json) : State := s.provide ⟨index, m.1⟩ m.2.text

theorem declared_distinct (valued : valueOf text = .ok options) : (declared options).Pairwise fun a b => a.1 ≠ b.1 := by
  have ordered : Keyed.Ordered (declared options) := by
    rw [valueOf] at valued
    split at valued
    · cases valued
      exact .nil
    · split at valued
      · rename_i v parsed
        cases valued
        cases found : v.get? "mappings" with
        | none => simp [declared, found, Keyed.Ordered]
        | some w =>
            have canonical := Json.member_canonical (Json.parsed_canonical parsed) found
            cases w with
            | object members =>
                simp only [declared, Option.bind_some, found, Json.object?, Option.getD_some]
                exact canonical.1
            | null | bool | number | string | array => simp [declared, found, Json.object?, Keyed.Ordered]
      · cases valued
  refine ordered.imp fun {a b} before same => ?_
  rw [same, Text.before, Text.precedes_irrefl] at before
  cases before

def createTypes (index : String) : List (String × Json) → RestM PUnit
  | [] => pure PUnit.unit
  | m :: rest => do
      let _ ← RestM.store (createType index m.1 m.2.text)
      createTypes index rest

theorem create_index_parts (index text : String) : createIndex index text = (do
    let options ← valueOf text
    let _ ← RestM.store (Store.createIndex index text)
    createTypes index (declared options)
    return .json 200 (IndexEnvelope.mk true true index).toJson) := by
  have loop (mappings : List (String × Json)) : (forIn mappings PUnit.unit fun m _ => do
      let _ ← RestM.store (createType index m.1 m.2.text)
      pure (ForInStep.yield PUnit.unit)) = createTypes index mappings := by
    induction mappings with
    | nil => rfl
    | cons m rest ih => simp only [List.forIn_cons, bind_assoc, pure_bind, ih, createTypes]
  simp only [createIndex, loop, declared]

theorem refusal_status (r : Refusal) : 400 ≤ r.status := by
  cases r with
  | store e => cases e <;> simp [Refusal.status, Failure.status]
  | noSuchType | bodyTooLong => simp [Refusal.status]

-- Types new to their index are created up to the first whose name does not fit.
theorem types_created (sound : s.Sound) (fresh : ∀ m ∈ mappings, s.memory.typeOf? ⟨index, m.1⟩ = none)
    (distinct : mappings.Pairwise fun a b => a.1 ≠ b.1) :
    ∃ result, (createTypes index mappings).inMemory s = (result, (mappings.takeWhile (fits index)).foldl (declare index) s) ∧
      ((∃ done, result = .ok done) ↔ ∀ m ∈ mappings, fits index m = true) := by
  induction mappings generalizing s with
  | nil => exact ⟨.ok PUnit.unit, rfl, by simp⟩
  | cons m rest ih =>
      obtain ⟨apart, distinct⟩ := List.pairwise_cons.mp distinct
      cases valid : Relation.ofNames index m.1 with
      | error e =>
          have unfit : fits index m = false := by simp [fits, valid]
          have refused : (createType index m.1 m.2.text).inMemory s = (.error e, s) := by
            rw [create_type_in_memory sound, valid]
          refine ⟨.error (.store e), ?_, by simp [unfit]⟩
          rw [createTypes, bind_served, store_served, refused, List.takeWhile_cons_of_neg (by simp [unfit])]
          rfl
      | ok r =>
          obtain rfl := relation_of_names valid
          have fit : fits index m = true := by simp [fits, valid]
          have later : ∀ n ∈ rest, (declare index s m).memory.typeOf? ⟨index, n.1⟩ = none := by
            intro n member
            have other : (⟨index, n.1⟩ : Relation) ≠ ⟨index, m.1⟩ := by simpa using Ne.symm (apart n member)
            rw [declare, provide_entry, if_neg other]
            exact fresh n (List.mem_cons_of_mem _ member)
          obtain ⟨result, ran, complete⟩ := ih (sound_provide (r := ⟨index, m.1⟩) sound valid) later distinct
          have created : (createType index m.1 m.2.text).inMemory s = (.ok ⟨m.1, index, m.2.text⟩, declare index s m) := by
            simp only [create_type_in_memory sound, valid, fresh m List.mem_cons_self]
            rfl
          refine ⟨result, ?_, by simpa [fit] using complete⟩
          rw [createTypes, bind_served, store_served, created, List.takeWhile_cons_of_pos fit]
          exact ran

theorem declare_keeps {r : Relation} {entry : TypeEntry} (present : s.memory.typeOf? r = some entry) :
    (mappings.foldl (declare index) s).memory.typeOf? r = some entry := by
  induction mappings generalizing s with
  | nil => exact present
  | cons m rest ih =>
      apply ih
      refine provide_entry.trans ?_
      split
      · rename_i same
        rw [← same, present, Option.getD_some]
      · exact present

theorem declared_types (fresh : ∀ m ∈ mappings, s.memory.typeOf? ⟨index, m.1⟩ = none)
    (distinct : mappings.Pairwise fun a b => a.1 ≠ b.1) :
    ∀ m ∈ mappings, (mappings.foldl (declare index) s).memory.typeOf? ⟨index, m.1⟩ = some ⟨m.1, index, m.2.text⟩ := by
  induction mappings generalizing s with
  | nil => simp
  | cons m rest ih =>
      obtain ⟨apart, distinct⟩ := List.pairwise_cons.mp distinct
      intro n member
      rcases List.mem_cons.mp member with rfl | member
      · refine declare_keeps (s := declare index s n) (provide_entry.trans ?_)
        rw [if_pos rfl, fresh n List.mem_cons_self]
        rfl
      · refine ih ?_ distinct n member
        intro n member
        have other : (⟨index, n.1⟩ : Relation) ≠ ⟨index, m.1⟩ := by simpa using Ne.symm (apart n member)
        rw [declare, provide_entry, if_neg other]
        exact fresh n (List.mem_cons_of_mem _ member)

theorem declare_keeps_index {entry : IndexEntry} (sound : s.Sound) (all : ∀ m ∈ mappings, fits index m = true)
    (present : s.memory.index? index = some entry) :
    (mappings.foldl (declare index) s).memory.index? index = some entry := by
  induction mappings generalizing s with
  | nil => exact present
  | cons m rest ih =>
      obtain ⟨fit, later⟩ := List.forall_mem_cons.mp all
      refine ih (sound_provide (r := ⟨index, m.1⟩) sound (of_decide_eq_true fit)) later ?_
      refine (provide_index sound index).trans ?_
      rw [if_pos rfl, present, Option.getD_some]

theorem opened_sound (sound : s.Sound) : (opened s index text).Sound := sound_add_index sound index text

theorem opened_untyped (sound : s.Sound) (opens : Opens service body index s text options) (type : String) :
    (opened s index text).memory.typeOf? ⟨index, type⟩ = none := by
  by_contra typed
  have there := sound.indexed ⟨index, type⟩ (Option.isSome_iff_ne_none.mpr typed)
  rw [opens.absent] at there
  cases there

theorem creation_opened (sound : s.Sound) (opens : Opens service body index s text options) :
    ∃ result, (service.perform body (.createIndex index)).inMemory s =
        (result, ((declared options).takeWhile (fits index)).foldl (declare index) (opened s index text)) ∧
      ((Service.answer result).status < 400 ↔ ∀ m ∈ declared options, fits index m = true) := by
  have started : (Store.createIndex index text).inMemory s = (.ok ⟨index, text⟩, opened s index text) := by
    rw [create_index_in_memory, opens.named, opens.absent]
    rfl
  have fresh : ∀ m ∈ declared options, (opened s index text).memory.typeOf? ⟨index, m.1⟩ = none :=
    fun m _ => opened_untyped sound opens m.1
  obtain ⟨result, ran, complete⟩ := types_created (opened_sound sound) fresh (declared_distinct opens.valued)
  have performed : (service.perform body (.createIndex index)).inMemory s =
      (result.map fun _ => .json 200 (IndexEnvelope.mk true true index).toJson,
        ((declared options).takeWhile (fits index)).foldl (declare index) (opened s index text)) := by
    rw [Service.perform, bind_served, lift_served, opens.read]
    dsimp only
    rw [create_index_parts, bind_served, lift_served, opens.valued]
    dsimp only
    rw [bind_served, store_served, started]
    exact (return_served _ _ _).trans (by rw [ran])
  refine ⟨_, performed, ?_⟩
  rw [← complete]
  cases result with
  | ok done => simp [Except.map, Service.answer, Response.json]
  | error e =>
      have refused := refusal_status e
      simp only [Except.map, Service.answer, Response.refused, Response.json]
      simp [Nat.not_lt_of_le refused]

theorem creation_refused (service : Service) (body : Body) (index : String) (s : State)
    (closed : ∀ text options, ¬ Opens service body index s text options) :
    ∃ e, (service.perform body (.createIndex index)).inMemory s = (.error e, s) := by
  rw [Service.perform, bind_served, lift_served]
  cases read : body.read service.bodyLimit with
  | error e => exact ⟨e, rfl⟩
  | ok text =>
      dsimp only
      rw [createIndex, bind_served, lift_served]
      cases valued : valueOf text with
      | error e => exact ⟨e, rfl⟩
      | ok options =>
          dsimp only
          rw [bind_served, store_served, create_index_in_memory]
          cases named : checkIndexName index with
          | error e => exact ⟨.store e, rfl⟩
          | ok =>
              cases absent : s.memory.index? index with
              | some entry => exact ⟨.store (.illegalOperation .indexExists), rfl⟩
              | none => exact absurd ⟨read, valued, named, absent⟩ (closed text options)

-- An error leaves the memory as it was; a success leaves the index and its types as they were declared.
structure AllOrNothing (service : Service) (q : Request) (index : String) (s : State) : Prop where
  nothing : 400 ≤ (service.inMemory q s).1.status → (service.inMemory q s).2.memory = s.memory
  all : (service.inMemory q s).1.status < 400 → ∃ text options, q.body.read service.bodyLimit = .ok text ∧
    valueOf text = .ok options ∧ (service.inMemory q s).2.memory.index? index = some ⟨index, text⟩ ∧
    ∀ m ∈ declared options, (service.inMemory q s).2.memory.typeOf? ⟨index, m.1⟩ = some ⟨m.1, index, m.2.text⟩

theorem opened_index (sound : s.Sound) (all : ∀ m ∈ mappings, fits index m = true) :
    (mappings.foldl (declare index) (opened s index text)).memory.index? index = some ⟨index, text⟩ := by
  refine declare_keeps_index (opened_sound sound) all ?_
  rw [opened, Memory.index_added, if_pos rfl]

theorem unfit_name_left_behind (reachable : Reachable s) (asked : q.operation? = some (.createIndex index))
    (opens : Opens service q.body index s text options) {m : String × Json} (member : m ∈ declared options)
    (unfit : fits index m = false) : ¬ AllOrNothing service q index s := by
  intro atomic
  have sound := reachable_sound reachable
  obtain ⟨result, performed, complete⟩ := creation_opened sound opens
  have failed : 400 ≤ (service.inMemory q s).1.status := by
    rw [Service.operation_served asked, Service.shown_status, performed]
    by_contra succeeded
    have fit := complete.mp (Nat.lt_of_not_le succeeded) m member
    rw [unfit] at fit
    cases fit
  have unchanged := atomic.nothing failed
  rw [Service.operation_served asked, performed] at unchanged
  have there : s.memory.index? index = some ⟨index, text⟩ := by
    rw [← unchanged]
    exact opened_index sound fun m taken => List.mem_takeWhile_imp taken
  rw [opens.absent] at there
  cases there

/-- Creating an index is all or nothing exactly when every type declared with it has a name that fits. -/
theorem creation_atomic_iff_names_fit (service : Service) {q : Request} (reachable : Reachable s)
    (asked : q.operation? = some (.createIndex index)) :
    AllOrNothing service q index s ↔
      ∀ text options, Opens service q.body index s text options → ∀ m ∈ declared options, fits index m = true := by
  have sound := reachable_sound reachable
  constructor
  · intro atomic text options opens m member
    by_contra unfit
    exact unfit_name_left_behind reachable asked opens member (Bool.eq_false_iff.mpr unfit) atomic
  · intro fit
    by_cases can : ∃ text options, Opens service q.body index s text options
    · obtain ⟨text, options, opens⟩ := can
      have every := fit text options opens
      obtain ⟨result, performed, complete⟩ := creation_opened sound opens
      rw [List.takeWhile_eq_self_iff.mpr every] at performed
      have succeeded : (service.inMemory q s).1.status < 400 := by
        rw [Service.operation_served asked, Service.shown_status, performed]
        exact complete.mpr every
      refine ⟨fun failed => absurd succeeded (Nat.not_lt_of_le failed), fun _ => ?_⟩
      refine ⟨text, options, opens.read, opens.valued, ?_⟩
      rw [Service.operation_served asked, performed]
      refine ⟨opened_index sound every, declared_types ?_ (declared_distinct opens.valued)⟩
      exact fun m _ => opened_untyped sound opens m.1
    · obtain ⟨e, refused⟩ := creation_refused service q.body index s fun text options opens => can ⟨text, options, opens⟩
      have served : service.inMemory q s = _ := Service.operation_served asked
      rw [refused] at served
      have failed : 400 ≤ (service.inMemory q s).1.status := by
        rw [served, Service.shown_status]
        exact refusal_status e
      refine ⟨fun _ => by rw [served], fun succeeded => ?_⟩
      exact absurd failed (Nat.not_le_of_lt succeeded)

def twoTypes : String := "\x7b\"mappings\":\x7b\"b\":\x7b\x7d,\"c\":1\x7d\x7d"

theorem two_types_all_or_nothing : Reachable .fresh ∧
    Request.operation? ⟨.put, "/a", .ofText twoTypes⟩ = some (.createIndex "a") ∧
    AllOrNothing smallService ⟨.put, "/a", .ofText twoTypes⟩ "a" .fresh := by
  have fresh : Reachable .fresh := ⟨[], rfl⟩
  have asked : Request.operation? ⟨.put, "/a", .ofText twoTypes⟩ = some (.createIndex "a") := by decide +kernel
  refine ⟨fresh, asked, (creation_atomic_iff_names_fit smallService fresh asked).mpr ?_⟩
  intro text options opens
  have read : Body.read smallService.bodyLimit (.ofText twoTypes) = .ok twoTypes := by decide +kernel
  obtain rfl : twoTypes = text := Except.ok.inj (read.symm.trans opens.read)
  have fit : ∀ found ∈ (valueOf twoTypes).toOption, ∀ m ∈ declared found, fits "a" m = true := by decide +kernel
  exact fit options (by rw [opens.valued]; rfl)

def spacedName : String := "\x7b\"mappings\":\x7b\"b\":\x7b\x7d,\"c d\":\x7b\x7d\x7d\x7d"

/-- The name with a blank comes after the index and one type were created. -/
theorem spaced_name_breaks_creation : ¬ ∀ (service : Service) (q : Request) (index : String) (s : State), Reachable s →
    q.operation? = some (.createIndex index) → AllOrNothing service q index s := by
  intro atomic
  have asked : Request.operation? ⟨.put, "/a", .ofText spacedName⟩ = some (.createIndex "a") := by decide +kernel
  have valued : ∃ found ∈ (valueOf spacedName).toOption, ∃ m ∈ declared found, fits "a" m = false := by decide +kernel
  obtain ⟨options, held, m, member, unfit⟩ := valued
  have opens : Opens smallService (.ofText spacedName) "a" .fresh spacedName options := by
    refine ⟨by decide +kernel, ?_, by decide, rfl⟩
    cases result : valueOf spacedName with
    | error e => simp [result, Except.toOption] at held
    | ok found =>
        rw [result] at held
        exact congrArg Except.ok (Option.some.inj held)
  exact unfit_name_left_behind ⟨[], rfl⟩ asked opens member unfit (atomic smallService _ "a" .fresh ⟨[], rfl⟩ asked)

end SearchStore.Rest

import SearchStore.Migration.Script
import SearchStore.Proofs.Migration.Transfers

/-!
Migrations from a source into a storage in memory. What is brought into the store depends on the
source alone, so a run has an outline: its transfers in order, and what halts it in the end if
anything does. A run does what its outline says, unless there is a mapping that no type can have.
-/

set_option autoImplicit false

namespace SearchStore.Migration

open Store (State Reachable)
open StoreM Store.State

variable {σ α β : Type}

section

variable (answer : (r : Source.Request) → StateM σ (Source.Reply r))

def Copying.against (op : Copying α) (source : σ) (s : State) : α × σ × State :=
  let ((a, known), source, memory) := ((op s.known).run (answerBoth answer Memory.answer)).run (source, s.memory)
  (a, source, ⟨memory, known⟩)

def MigrationM.against (op : MigrationM α) (source : σ) (s : State) : Except MigrationError α × σ × State :=
  Copying.against answer op.run source s

end

variable {answer : (r : Source.Request) → StateM σ (Source.Reply r)} {source : σ} {s : State} {n : Summary}

namespace Copying

theorem bind_against (op : Copying α) (f : α → Copying β) : against answer (op >>= f) source s =
    against answer (f (against answer op source s).1) (against answer op source s).2.1
      (against answer op source s).2.2 := by
  have run : ((op >>= f) s.known).run (answerBoth answer Memory.answer) = _ := Dialogue.run_bind _ (op s.known) _
  simp only [against, run]
  rfl

theorem ask_against (r : SourceRequest) :
    against answer (ask r) source s = (((answer r).run source).1, ((answer r).run source).2, s) := rfl

theorem second_run (d : Dialogue Storage α) (source : σ) (m : Memory) :
    (d.withSecond.run (answerBoth answer Memory.answer)).run (source, m) =
      (((d.run Memory.answer).run m).1, source, ((d.run Memory.answer).run m).2) := by
  induction d generalizing m with
  | done a => rfl
  | ask r next ih => exact ih _ _

theorem store_against (op : StoreM α) :
    against answer (store op) source s = ((op.inMemory s).1, source, (op.inMemory s).2) := by
  simp only [against, store, second_run]
  rfl

theorem return_against (op : Copying α) (f : α → β) : against answer (do return f (← op)) source s =
    (f (against answer op source s).1, (against answer op source s).2) := by
  rw [bind_against]
  rfl

end Copying

namespace MigrationM

theorem pure_against (a : α) : against answer (pure a) source s = (.ok a, source, s) := rfl

theorem bind_against (op : MigrationM α) (f : α → MigrationM β) : against answer (op >>= f) source s =
    match against answer op source s with
    | (.ok a, source, s) => against answer (f a) source s
    | (.error e, source, s) => (.error e, source, s) := by
  have next : against answer (op >>= f) source s =
      Copying.against answer (ExceptT.bindCont f (against answer op source s).1) (against answer op source s).2.1
        (against answer op source s).2.2 := Copying.bind_against op.run _
  rw [next]
  obtain ⟨result, source, s⟩ := against answer op source s
  cases result <;> rfl

theorem ask_against (r : SourceRequest) : against answer (ask r) source s =
    (((answer r).run source).1.mapError .source, ((answer r).run source).2, s) :=
  Copying.return_against (Copying.ask r) _

theorem store_against (op : StoreM α) :
    against answer (store op) source s = ((op.inMemory s).1.mapError .store, source, (op.inMemory s).2) := by
  have returned : against answer (store op) source s = _ := Copying.return_against (Copying.store op) _
  rw [returned, Copying.store_against]

end MigrationM

structure Outline (σ : Type) where
  transfers : List Transfer
  halt : Option MigrationError
  source : σ

namespace Outline

def halted (e : MigrationError) (source : σ) : Outline σ := ⟨[], some e, source⟩

def nothing (source : σ) : Outline σ := ⟨[], none, source⟩

def andThen (o : Outline σ) (next : σ → Outline σ) : Outline σ :=
  match o.halt with
  | some _ => o
  | none => ⟨o.transfers ++ (next o.source).transfers, (next o.source).halt, (next o.source).source⟩

def result (o : Outline σ) (n : Summary) : Except MigrationError Summary :=
  match o.halt with
  | some e => .error e
  | none => .ok n

end Outline

section

variable (answer)

def outlineAsk (r : SourceRequest) (next : r.Answer → σ → Outline σ) (source : σ) : Outline σ :=
  match (answer r).run source with
  | (.ok a, source) => next a source
  | (.error fault, source) => .halted (.source fault) source

def outlineHits (page : ScrollPage) (source : σ) : Outline σ := ⟨page.hits.map .document, none, source⟩

def outlinePages : Nat → ScrollPage → σ → Option String × Outline σ
  | bound, page, source =>
      if page.hits.isEmpty then (page.scrollId, .nothing source)
      else
        match page.scrollId, bound with
        | none, _ => (none, outlineHits page source)
        | some scroll, 0 => (some scroll, (outlineHits page source).andThen (.halted .pageBound))
        | some scroll, bound + 1 =>
            match (answer (.nextPage scroll)).run source with
            | (.ok next, source) =>
                (outlinePages bound next source).map id fun later => (outlineHits page source).andThen fun _ => later
            | (.error fault, source) => (some scroll, (outlineHits page source).andThen (.halted (.source fault)))

def released (source : σ) : Option String → σ
  | some id => ((answer (.closeScroll id)).run source).2
  | none => source

def outlineDocuments (bound : Nat) (index : String) : σ → Outline σ :=
  outlineAsk answer (.openScroll index) fun page source =>
    let (id, o) := outlinePages answer bound page source
    { o with source := released answer o.source id }

def outlineMappings (index : String) : σ → Outline σ :=
  outlineAsk answer (.typeMappings index) fun mappings source =>
    ⟨mappings.map fun m => .mapping index m.1 m.2, none, source⟩

def outlineIndex (bound : Nat) (index : String) (source : σ) : Outline σ :=
  ((outlineMappings answer index source).andThen (outlineDocuments answer bound index)).andThen fun source =>
    ⟨[.finished index], none, source⟩

def outlineIndices (bound : Nat) : List String → σ → Outline σ
  | [], source => .nothing source
  | index :: rest, source => (outlineIndex answer bound index source).andThen (outlineIndices bound rest)

def outline (bound : Nat) : σ → Outline σ :=
  outlineAsk answer .indexNames fun names => outlineIndices answer bound names

end

theorem copy_hit_against (hit : SourceDocument) : Copying.against answer (copyHit hit n) source s =
    ((Transfer.document hit).count s n, source, (Transfer.document hit).carry s) := by
  have carried : (Transfer.document hit).carry s =
      ((Store.createDocument hit.index hit.type (stored hit.source) (some hit.id)).inMemory s).2 := by
    simp only [Transfer.carry, Transfer.operation?, Store.Operation.step, Store.Operation.perform, return_in_memory]
  rw [copyHit, document_stored, Copying.bind_against, Copying.store_against, carried, Transfer.count]
  cases ((Store.createDocument hit.index hit.type (stored hit.source) (some hit.id)).inMemory s).1 <;> rfl

theorem copy_hits_against (hits : List SourceDocument) : Copying.against answer (copyHits hits n) source s =
    ((carryAll (hits.map .document) n s).1, source, (carryAll (hits.map .document) n s).2) := by
  induction hits generalizing n s with
  | nil => rfl
  | cons hit rest ih =>
      rw [copyHits, Copying.bind_against, copy_hit_against, ih]
      rfl

theorem hits_and_then (page : ScrollPage) (source : σ) (next : σ → Outline σ) : (outlineHits page source).andThen next =
    ⟨page.hits.map .document ++ (next source).transfers, (next source).halt, (next source).source⟩ := rfl

theorem copy_pages_against (bound : Nat) (page : ScrollPage) : Copying.against answer (copyPages bound page n) source s =
    (⟨(outlinePages answer bound page source).1,
        (outlinePages answer bound page source).2.result
          (carryAll (outlinePages answer bound page source).2.transfers n s).1⟩,
      (outlinePages answer bound page source).2.source,
      (carryAll (outlinePages answer bound page source).2.transfers n s).2) := by
  fun_induction outlinePages generalizing n s with
  | case1 bound page source last =>
      rw [copyPages, if_pos last]
      rfl
  | case2 bound page source filled unscrolled =>
      rw [copyPages, if_neg filled, Copying.bind_against, copy_hits_against, unscrolled]
      rfl
  | case3 page source filled id scrolled =>
      rw [copyPages, if_neg filled, Copying.bind_against, copy_hits_against, scrolled]
      simp only [hits_and_then, Outline.halted, List.append_nil]
      rfl
  | case4 page source filled id bound scrolled next after replied ih =>
      rw [copyPages, if_neg filled, Copying.bind_against, copy_hits_against, scrolled]
      dsimp only
      rw [Copying.bind_against, Copying.ask_against, replied]
      simp only [Prod.map_fst, Prod.map_snd, id_eq, hits_and_then, Outline.result, carry_all_append]
      exact ih
  | case5 page source filled id bound scrolled fault after replied =>
      rw [copyPages, if_neg filled, Copying.bind_against, copy_hits_against, scrolled]
      dsimp only
      rw [Copying.bind_against, Copying.ask_against, replied]
      simp only [hits_and_then, Outline.halted, List.append_nil]
      rfl

-- A step of a migration does what an outline says, from any summary and any state that can be reached.
structure Follows (answer : (r : Source.Request) → StateM σ (Source.Reply r)) (step : Summary → MigrationM Summary)
    (source : σ) (o : Outline σ) : Prop where
  fitting : ∀ n s, Reachable s → (∀ t ∈ o.transfers, t.Fits) →
    (step n).against answer source s =
      (o.result (carryAll o.transfers n s).1, o.source, (carryAll o.transfers n s).2)
  unfit : ∀ n s, Reachable s → (∃ t ∈ o.transfers, ¬ t.Fits) →
    ∃ e, ((step n).against answer source s).1 = .error (.store e)

section

variable {f g : Summary → MigrationM Summary} {o : Outline σ}

theorem then_halted {e : MigrationError} (halted : o.halt = some e) (next : σ → Outline σ) : o.andThen next = o := by
  simp only [Outline.andThen, halted]

theorem then_going (going : o.halt = none) (next : σ → Outline σ) : o.andThen next =
    ⟨o.transfers ++ (next o.source).transfers, (next o.source).halt, (next o.source).source⟩ := by
  simp only [Outline.andThen, going]

theorem follows_ask {r : SourceRequest} {step : r.Answer → Summary → MigrationM Summary}
    {next : r.Answer → σ → Outline σ} (goes : ∀ a source, Follows answer (step a) source (next a source)) (source : σ) :
    Follows answer (fun n => do step (← MigrationM.ask r) n) source (outlineAsk answer r next source) := by
  constructor
  · intro n s reachable fits
    rw [MigrationM.bind_against, MigrationM.ask_against]
    rw [outlineAsk] at fits ⊢
    generalize (answer r).run source = replied at fits ⊢
    obtain ⟨reply, after⟩ := replied
    cases reply with
    | error fault => rfl
    | ok a => exact (goes a after).fitting n s reachable fits
  · intro n s reachable unfit
    rw [MigrationM.bind_against, MigrationM.ask_against]
    rw [outlineAsk] at unfit
    generalize (answer r).run source = replied at unfit ⊢
    obtain ⟨reply, after⟩ := replied
    cases reply with
    | error fault => simp [Outline.halted] at unfit
    | ok a => exact (goes a after).unfit n s reachable unfit

-- What follows an unfit mapping is not reached, and neither is what follows a halt.
theorem follows_then {next : σ → Outline σ} (first : Follows answer f source o)
    (goes : ∀ source, Follows answer g source (next source)) :
    Follows answer (fun n => f n >>= g) source (o.andThen next) := by
  constructor
  · intro n s reachable fits
    rw [MigrationM.bind_against]
    cases halted : o.halt with
    | some e =>
        rw [then_halted halted] at fits ⊢
        rw [first.fitting n s reachable fits]
        simp only [Outline.result, halted]
    | none =>
        rw [then_going halted] at fits ⊢
        rw [first.fitting n s reachable fun t member => fits t (List.mem_append_left _ member)]
        simp only [Outline.result, halted, carry_all_append]
        apply (goes o.source).fitting _ _ (carry_all_reachable o.transfers n reachable)
        exact fun t member => fits t (List.mem_append_right _ member)
  · intro n s reachable unfit
    rw [MigrationM.bind_against]
    by_cases fits : ∀ t ∈ o.transfers, t.Fits
    · rw [first.fitting n s reachable fits]
      cases halted : o.halt with
      | some e =>
          rw [then_halted halted] at unfit
          obtain ⟨t, member, bad⟩ := unfit
          exact absurd (fits t member) bad
      | none =>
          rw [then_going halted] at unfit
          simp only [Outline.result, halted]
          apply (goes o.source).unfit _ _ (carry_all_reachable o.transfers n reachable)
          obtain ⟨t, member, bad⟩ := unfit
          refine ⟨t, (List.mem_append.mp member).resolve_left fun here => bad (fits t here), bad⟩
    · simp only [not_forall] at fits
      obtain ⟨t, member, bad⟩ := fits
      obtain ⟨e, failed⟩ := first.unfit n s reachable ⟨t, member, bad⟩
      generalize (f n).against answer source s = ran at failed ⊢
      obtain ⟨result, source, s⟩ := ran
      cases failed
      exact ⟨e, rfl⟩

end

theorem follows_pure {change : Summary → Summary} {transfers : List Transfer} (fits : ∀ t ∈ transfers, t.Fits)
    (counts : ∀ n s, carryAll transfers n s = (change n, s)) :
    Follows answer (fun n => pure (change n)) source ⟨transfers, none, source⟩ := by
  constructor
  · intro n s reachable _
    rw [MigrationM.pure_against, counts]
    rfl
  · rintro n s reachable ⟨t, member, unfit⟩
    exact absurd (fits t member) unfit

theorem follows_mapping (index type : String) (m : Json) (source : σ) :
    Follows answer
      (fun n => do MigrationM.store (copyMapping index type m); return { n with types := n.types + 1 }) source
      ⟨[.mapping index type m], none, source⟩ := by
  constructor
  · intro n s reachable fits
    have here := fits _ (List.mem_singleton_self _)
    rw [MigrationM.bind_against, MigrationM.store_against, copy_mapping_carries (reachable_sound reachable) here]
    rfl
  · rintro n s reachable ⟨t, member, unfit⟩
    obtain rfl := List.mem_singleton.mp member
    obtain ⟨e, after, refused⟩ := copy_mapping_refused (reachable_sound reachable) unfit
    rw [MigrationM.bind_against, MigrationM.store_against, refused]
    exact ⟨e, rfl⟩

def copyEach (index : String) : List (String × Json) → MigrationM PUnit
  | [] => pure PUnit.unit
  | m :: rest => do
      MigrationM.store (copyMapping index m.1 m.2)
      copyEach index rest

theorem copy_mappings_parts (index : String) (n : Summary) : copyMappings index n = (do
    let mappings ← MigrationM.ask (.typeMappings index)
    copyEach index mappings
    return { n with types := n.types + mappings.length }) := by
  have loop (mappings : List (String × Json)) : (forIn mappings PUnit.unit fun m _ => do
      MigrationM.store (copyMapping index m.1 m.2)
      pure (ForInStep.yield PUnit.unit)) = copyEach index mappings := by
    induction mappings with
    | nil => rfl
    | cons m rest ih => simp only [List.forIn_cons, bind_assoc, pure_bind, ih, copyEach]
  simp only [copyMappings, loop]

-- The types are counted at the end, which is as if each had been counted in its turn.
theorem follows_each (index : String) (mappings : List (String × Json)) (source : σ) :
    Follows answer (fun n => do copyEach index mappings; return { n with types := n.types + mappings.length }) source
      ⟨mappings.map fun m => .mapping index m.1 m.2, none, source⟩ := by
  induction mappings generalizing source with
  | nil => exact follows_pure (by simp) fun n s => (rfl : carryAll [] n s = (n, s))
  | cons m rest ih =>
      have both := follows_then (follows_mapping index m.1 m.2 source) ih
      have counted (n : Nat) : n + (m :: rest).length = n + 1 + rest.length := by
        rw [List.length_cons]
        omega
      simp only [bind_assoc, pure_bind] at both
      simp only [copyEach, bind_assoc, counted]
      exact both

theorem follows_mappings (index : String) (source : σ) :
    Follows answer (copyMappings index) source (outlineMappings answer index source) := by
  have parts := funext (copy_mappings_parts index)
  rw [parts]
  exact follows_ask (follows_each index) source

theorem pages_documents (bound : Nat) (page : ScrollPage) (source : σ) :
    ∀ t ∈ (outlinePages answer bound page source).2.transfers, ∃ hit, t = .document hit := by
  have here (page : ScrollPage) (t : Transfer) (member : t ∈ page.hits.map Transfer.document) :
      ∃ hit, t = .document hit := by
    obtain ⟨hit, -, rfl⟩ := List.mem_map.mp member
    exact ⟨hit, rfl⟩
  fun_induction outlinePages with
  | case1 => simp [Outline.nothing]
  | case2 bound page source filled unscrolled => exact here page
  | case3 page source filled id scrolled =>
      simpa only [hits_and_then, Outline.halted, List.append_nil] using here page
  | case4 page source filled id bound scrolled next after replied ih =>
      intro t member
      rcases List.mem_append.mp member with first | later
      · exact here page t first
      · exact ih t later
  | case5 page source filled id bound scrolled fault after replied =>
      simpa only [hits_and_then, Outline.halted, List.append_nil] using here page

theorem release_against (id : Option String) :
    Copying.against answer (release id) source s = ((), released answer source id, s) := by
  cases id <;> rfl

theorem follows_documents (bound : Nat) (index : String) (source : σ) :
    Follows answer (copyDocuments bound index) source (outlineDocuments answer bound index source) := by
  refine follows_ask (fun page source => ?_) source
  constructor
  · intro n s reachable _
    have parts : MigrationM.against answer (ExceptT.mk do
        let e ← copyPages bound page n
        release e.scrollId
        return e.outcome) source s = _ := Copying.bind_against (copyPages bound page n) _
    rw [copy_pages_against, Copying.bind_against, release_against] at parts
    exact parts
  · rintro n s reachable ⟨t, member, unfit⟩
    obtain ⟨hit, rfl⟩ := pages_documents bound page source t member
    exact absurd trivial unfit

theorem follows_index (bound : Nat) (index : String) (source : σ) :
    Follows answer (fun n => copyIndex bound n index) source (outlineIndex answer bound index source) := by
  have finished (source : σ) : Follows answer (fun n => return { n with indices := n.indices + 1 }) source
      ⟨[.finished index], none, source⟩ := follows_pure (by simp [Transfer.Fits]) fun _ _ => rfl
  have both : Follows answer (fun n => copyMappings index n >>= copyDocuments bound index) source _ :=
    follows_then (follows_mappings index source) (follows_documents bound index)
  have all := follows_then both finished
  simp only [bind_assoc] at all
  exact all

theorem follows_indices (bound : Nat) (names : List String) (source : σ) :
    Follows answer (fun n => names.foldlM (copyIndex bound) n) source (outlineIndices answer bound names source) := by
  induction names generalizing source with
  | nil => exact follows_pure (by simp) fun n s => (rfl : carryAll [] n s = (n, s))
  | cons index rest ih =>
      simp only [List.foldlM_cons]
      exact follows_then (follows_index bound index source) ih

theorem follows_run (bound : Nat) (source : σ) :
    Follows answer (fun n => do (← MigrationM.ask .indexNames).foldlM (copyIndex bound) n) source
      (outline answer bound source) :=
  follows_ask (follows_indices bound) source

def runInMemory (answer : (r : Source.Request) → StateM σ (Source.Reply r)) (bound : Nat) (source : σ) (s : State) :
    Except MigrationError Summary × σ × State :=
  let ((result, known), source, memory) := (runWith answer Memory.answer bound s.known).run (source, s.memory)
  (result, source, ⟨memory, known⟩)

theorem run_fitting (reachable : Reachable s) {bound : Nat}
    (fits : ∀ t ∈ (outline answer bound source).transfers, t.Fits) :
    runInMemory answer bound source s =
      ((outline answer bound source).result (carryAll (outline answer bound source).transfers .zero s).1,
        (outline answer bound source).source, (carryAll (outline answer bound source).transfers .zero s).2) :=
  (follows_run bound source).fitting .zero s reachable fits

theorem run_unfit (reachable : Reachable s) {bound : Nat}
    (unfit : ∃ t ∈ (outline answer bound source).transfers, ¬ t.Fits) :
    ∃ e, (runInMemory answer bound source s).1 = .error (.store e) :=
  (follows_run bound source).unfit .zero s reachable unfit

theorem run_completed (reachable : Reachable s) {bound : Nat} {after : σ} {s' : State}
    (completed : runInMemory answer bound source s = (.ok n, after, s')) :
    (∀ t ∈ (outline answer bound source).transfers, t.Fits) ∧ (outline answer bound source).halt = none ∧
      after = (outline answer bound source).source ∧
      carryAll (outline answer bound source).transfers .zero s = (n, s') := by
  have fits : ∀ t ∈ (outline answer bound source).transfers, t.Fits := by
    by_contra unfit
    simp only [not_forall] at unfit
    obtain ⟨t, member, bad⟩ := unfit
    obtain ⟨e, failed⟩ := run_unfit reachable ⟨t, member, bad⟩
    rw [completed] at failed
    cases failed
  rw [run_fitting reachable fits, Outline.result] at completed
  cases halted : (outline answer bound source).halt with
  | some e =>
      rw [halted] at completed
      cases completed
  | none =>
      rw [halted] at completed
      cases completed
      exact ⟨fits, rfl, rfl, rfl⟩

end SearchStore.Migration

import SearchStore.Proofs.Store.State
import SearchStore.Store.Recorder

/-!
Where an operation can be broken off. Behind a recorder whose faults are spent it runs as in memory;
with one more fault armed it runs up to the request the fault waits for, fails with the error of the
fault, and leaves the state in which it was about to put that request.
-/

set_option autoImplicit false

namespace SearchStore

namespace Recorder

def Spent (faults : List Fault) : Prop := ∀ f ∈ faults, f.times = 0

theorem consult_spent {faults : List Fault} (spent : Spent faults) (method : Method) :
    consult method faults = (none, faults) := by
  induction faults with
  | nil => rfl
  | cons f rest ih =>
      obtain ⟨here, later⟩ := List.forall_mem_cons.mp spent
      simp [consult, here, ih later]

theorem consult_armed {faults : List Fault} (spent : Spent faults) {f : Fault} (armed : f.times = 1) (method : Method) :
    consult method (faults ++ [f]) =
      if f.method = method then
        if f.skip = 0 then (some f.error, faults ++ [{ f with times := 0 }])
        else (none, faults ++ [{ f with skip := f.skip - 1 }])
      else (none, faults ++ [f]) := by
  induction faults with
  | nil =>
      by_cases same : f.method = method
      · by_cases due : f.skip = 0
        · simp [consult, armed, same, due]
        · simp [consult, armed, same, due]
      · simp [consult, armed, same]
  | cons g rest ih =>
      obtain ⟨here, later⟩ := List.forall_mem_cons.mp spent
      by_cases same : f.method = method
      · by_cases due : f.skip = 0
        · simp [consult, here, ih later, same, due]
        · simp [consult, here, ih later, same, due]
      · simp [consult, here, ih later, same]

end Recorder

-- The fault that lets the requests before a call pass and answers the call with an error.
def Fault.awaiting (before : List StorageRequest) (call : StorageRequest) (e : Failure) : Fault :=
  ⟨call.method, some e, before.countP (·.method = call.method), 1⟩

namespace Recorder

variable {faults : List Fault} {call r : StorageRequest} {e : Failure} {before : List StorageRequest}

theorem consult_passing (spent : Spent faults) :
    consult r.method (faults ++ [.awaiting (r :: before) call e]) = (none, faults ++ [.awaiting before call e]) := by
  rw [consult_armed spent rfl]
  by_cases same : call.method = r.method
  · simp [Fault.awaiting, same]
  · simp [Fault.awaiting, same, Ne.symm same]

theorem consult_due (spent : Spent faults) :
    consult call.method (faults ++ [.awaiting [] call e]) = (some (some e), faults ++ [⟨call.method, some e, 0, 0⟩]) := by
  rw [consult_armed spent rfl]
  simp [Fault.awaiting]

theorem spent_snoc (spent : Spent faults) (f : Fault) (last : f.times = 0) : Spent (faults ++ [f]) := by
  intro g member
  rcases List.mem_append.mp member with earlier | here
  · exact spent g earlier
  · rw [List.mem_singleton.mp here]
    exact last

end Recorder

namespace Dialogue

open Store (State)

variable {α β : Type} {m : Memory}

def asked : Dialogue Storage α → Memory → List StorageRequest
  | .done _, _ => []
  | .ask r next, m => r :: asked (next (.ok (m.serve r).1)) (m.serve r).2

theorem run_recorded (d : Dialogue Storage α) (m : Memory) (calls : List StorageRequest) {faults : List Fault}
    (spent : Recorder.Spent faults) :
    (d.run Recorder.answer).run ⟨m, calls, faults⟩ =
      (((d.run Memory.answer).run m).1, ⟨((d.run Memory.answer).run m).2, calls ++ d.asked m, faults⟩) := by
  induction d generalizing m calls with
  | done a =>
      rw [asked, List.append_nil]
      rfl
  | ask r next ih =>
      have answered : (Recorder.answer r).run ⟨m, calls, faults⟩ =
          (.ok (m.serve r).1, ⟨(m.serve r).2, calls ++ [r], faults⟩) := by
        simp only [Recorder.answer, StateT.run, Recorder.consult_spent spent]
      have later := ih (.ok (m.serve r).1) (m.serve r).2 (calls ++ [r])
      rw [List.append_assoc] at later
      rw [asked, run, StateT.run_bind, answered]
      exact later

inductive Guarded (safe : State → Prop) : Dialogue Storage (Except Failure α × KnownRelations) → Memory → Prop where
  | done (x : Except Failure α × KnownRelations) (m : Memory) : Guarded safe (.done x) m
  | ask (r : StorageRequest) (next : Storage.Reply r → Dialogue Storage (Except Failure α × KnownRelations)) (m : Memory)
      (known : KnownRelations) (ends : ∀ e, next (.error e) = .done (.error e, known)) (here : safe ⟨m, known⟩)
      (on : Guarded safe (next (.ok (m.serve r).1)) (m.serve r).2) : Guarded safe (.ask (I := Storage) r next) m

variable {d : Dialogue Storage (Except Failure α × KnownRelations)} {safe : State → Prop}

theorem guarded_interrupted (guarded : Guarded safe d m) {before later : List StorageRequest} {call : StorageRequest}
    (made : d.asked m = before ++ call :: later) (calls : List StorageRequest) {faults : List Fault}
    (spent : Recorder.Spent faults) (e : Failure) :
    ∃ left, safe left ∧ (d.run Recorder.answer).run ⟨m, calls, faults ++ [.awaiting before call e]⟩ =
      ((.error e, left.known), ⟨left.memory, calls ++ (before ++ [call]), faults ++ [⟨call.method, some e, 0, 0⟩]⟩) := by
  induction guarded generalizing before calls with
  | done x m =>
      rw [asked] at made
      simp at made
  | ask r next m known ends here on ih =>
      rw [asked] at made
      cases before with
      | nil =>
          obtain ⟨rfl, rest⟩ := List.cons.inj made
          have answered : (Recorder.answer r).run ⟨m, calls, faults ++ [.awaiting [] r e]⟩ =
              (.error e, ⟨m, calls ++ [r], faults ++ [⟨r.method, some e, 0, 0⟩]⟩) := by
            simp only [Recorder.answer, StateT.run, Recorder.consult_due spent]
          refine ⟨⟨m, known⟩, here, ?_⟩
          rw [run, StateT.run_bind, answered]
          exact congrArg (fun d => (run Recorder.answer d).run _) (ends e)
      | cons first before =>
          obtain ⟨rfl, rest⟩ := List.cons.inj made
          have answered : (Recorder.answer r).run ⟨m, calls, faults ++ [.awaiting (r :: before) call e]⟩ =
              (.ok (m.serve r).1, ⟨(m.serve r).2, calls ++ [r], faults ++ [.awaiting before call e]⟩) := by
            simp only [Recorder.answer, StateT.run, Recorder.consult_passing spent]
          obtain ⟨left, held, ran⟩ := ih rest (calls ++ [r])
          rw [List.append_assoc] at ran
          refine ⟨left, held, ?_⟩
          rw [run, StateT.run_bind, answered]
          exact ran

theorem guarded_mono {wider : State → Prop} (guarded : Guarded safe d m) (wide : ∀ s, safe s → wider s) : Guarded wider d m := by
  induction guarded with
  | done x m => exact .done x m
  | ask r next m known ends here on ih => exact .ask r next m known ends (wide _ here) ih

theorem guarded_continued {rest : Except Failure α × KnownRelations → Dialogue Storage (Except Failure β × KnownRelations)}
    (first : Guarded safe d m) (fails : ∀ e known, rest (.error e, known) = .done (.error e, known))
    (next : ∀ a known after, (d.run Memory.answer).run m = ((.ok a, known), after) → Guarded safe (rest (.ok a, known)) after) :
    Guarded safe (d.bind rest) m := by
  induction first with
  | done x m =>
      obtain ⟨result, known⟩ := x
      cases result with
      | error e =>
          rw [bind, fails]
          exact .done _ m
      | ok a => exact next a known m rfl
  | ask r following m known ends here on ih =>
      refine .ask r _ m known ?_ here (ih next)
      intro e
      rw [ends, bind, fails]

end Dialogue

namespace StoreM

open Store (State)

variable {α β : Type} {op : StoreM α} {f : α → StoreM β} {s : State} {safe wider : State → Prop}

def Guarded (safe : State → Prop) (op : StoreM α) (s : State) : Prop := Dialogue.Guarded safe (op s.known) s.memory

theorem guarded_pure (a : α) : Guarded safe (pure a) s := .done _ _

theorem guarded_throw (e : Failure) : Guarded safe (throw e : StoreM α) s := .done _ _

theorem guarded_wider (guarded : Guarded safe op s) (wide : ∀ s, safe s → wider s) : Guarded wider op s :=
  Dialogue.guarded_mono guarded wide

theorem guarded_bind (first : Guarded safe op s)
    (next : ∀ a after, op.inMemory s = (.ok a, after) → Guarded safe (f a) after) : Guarded safe (op >>= f) s := by
  refine Dialogue.guarded_continued first (fun _ _ => rfl) ?_
  intro a known after ran
  refine next a ⟨after, known⟩ ?_
  simp only [inMemory, runWith, ran]

theorem guarded_ask (r : StorageRequest) (here : safe s) : Guarded safe (ask r) s :=
  .ask r _ s.memory s.known (fun _ => rfl) here (.done _ _)

theorem guarded_request {r : StorageRequest} {f : r.Answer → StoreM β} (here : safe s)
    (next : Guarded safe (f (s.memory.serve r).1) ⟨(s.memory.serve r).2, s.known⟩) : Guarded safe (ask r >>= f) s := by
  refine guarded_bind (guarded_ask r here) ?_
  intro a after ran
  rw [ask_in_memory] at ran
  cases ran
  exact next

theorem guarded_given {result : Except Failure α} (next : ∀ a, result = .ok a → Guarded safe (f a) s) :
    Guarded safe (liftM result >>= f) s := by
  cases result with
  | error e => exact .done _ _
  | ok a => exact next a rfl

theorem guarded_known {f : KnownRelations → StoreM β} (next : Guarded safe (f s.known) s) :
    Guarded safe (getThe KnownRelations >>= f) s := next

theorem guarded_note (r : Relation) : Guarded safe (KnownRelations.note r) s := .done _ _

end StoreM

end SearchStore

import SearchStore.Proofs.Store.State
import SearchStore.Rest.Service

/-!
Requests served over a storage in memory. What is done for a request fails with a refusal where its
operations of the store fail with an error, and a response is made of either.
-/

set_option autoImplicit false

namespace SearchStore.Rest

open Store (State)

variable {α β : Type}

def served (op : StateT KnownRelations (Dialogue Storage) α) (s : State) : α × State :=
  let ((a, known), memory) := ((op s.known).run Memory.answer).run s.memory
  (a, ⟨memory, known⟩)

theorem served_bind (op : StateT KnownRelations (Dialogue Storage) α)
    (f : α → StateT KnownRelations (Dialogue Storage) β) (s : State) :
    served (op >>= f) s = served (f (served op s).1) (served op s).2 := by
  have run : ((op >>= f) s.known).run Memory.answer = _ := Dialogue.run_bind Memory.answer (op s.known) _
  simp only [served, run]
  rfl

namespace RestM

def inMemory (op : RestM α) (s : State) : Except Refusal α × State := served op.run s

theorem lift_served (r : Except Refusal α) (s : State) : inMemory (liftM r) s = (r, s) := by
  cases r <;> rfl

theorem bind_served (op : RestM α) (f : α → RestM β) (s : State) :
    inMemory (op >>= f) s =
      match inMemory op s with
      | (.ok a, after) => inMemory (f a) after
      | (.error e, after) => (.error e, after) := by
  have next : inMemory (op >>= f) s = served (ExceptT.bindCont f (inMemory op s).1) (inMemory op s).2 := served_bind op.run _ s
  rw [next]
  obtain ⟨result, after⟩ := inMemory op s
  cases result <;> rfl

theorem store_served (op : StoreM α) (s : State) :
    inMemory (store op) s = ((op.inMemory s).1.mapError .store, (op.inMemory s).2) := by
  have run : (store op s.known).run Memory.answer = _ := Dialogue.run_bind Memory.answer (op s.known) _
  simp only [inMemory, served, ExceptT.run, StoreM.inMemory, StoreM.runWith, run, StateT.run_bind]
  rfl

theorem return_served (op : RestM α) (f : α → β) (s : State) :
    inMemory (do return f (← op)) s = ((inMemory op s).1.map f, (inMemory op s).2) := by
  rw [bind_served]
  obtain ⟨result, after⟩ := inMemory op s
  cases result <;> rfl

theorem reported_served (op : StoreM α) (f : α → β) (s : State) :
    inMemory (do return f (← store op)) s = (((op.inMemory s).1.mapError .store).map f, (op.inMemory s).2) := by
  rw [return_served, store_served]

end RestM

-- What a request asks for, if its path leads somewhere, its verb applies there and its names can be
-- decoded.
def Request.operation? (q : Request) : Option (Operation String) :=
  (Resource.ofPath? q.path).bind fun resource =>
    (Operation.of? q.verb resource).bind fun operation => operation.decode.toOption

namespace Service

def inMemory (service : Service) (q : Request) (s : State) : Response × State := served (service.serve q) s

def shown (verb : Verb) (response : Response) : Response := if verb = .head then response.withoutContent else response

theorem shown_status (verb : Verb) (response : Response) : (shown verb response).status = response.status := by
  rw [shown]
  split <;> rfl

def answer : Except Refusal Response → Response
  | .ok response => response
  | .error refusal => .refused refusal

variable {service : Service} {q : Request} {o : Operation String} {s : State}

theorem respond_served (service : Service) (q : Request) (s : State) :
    service.inMemory q s = (shown q.verb (served (service.respond q) s).1, (served (service.respond q) s).2) :=
  served_bind (service.respond q) _ s

theorem operation_served (asked : q.operation? = some o) :
    service.inMemory q s =
      (shown q.verb (answer ((service.perform q.body o).inMemory s).1), ((service.perform q.body o).inMemory s).2) := by
  obtain ⟨resource, led, asked⟩ := Option.bind_eq_some_iff.mp asked
  obtain ⟨operation, applies, asked⟩ := Option.bind_eq_some_iff.mp asked
  have performed : served (service.respond q) s =
      (answer ((service.perform q.body o).inMemory s).1, ((service.perform q.body o).inMemory s).2) := by
    cases decoded : operation.decode with
    | error noun => simp [decoded, Except.toOption] at asked
    | ok named =>
        rw [decoded] at asked
        cases asked
        simp only [respond, led, applies, decoded, served_bind]
        simp only [RestM.inMemory]
        obtain ⟨result, after⟩ := served (service.perform q.body o).run s
        cases result <;> rfl
  rw [respond_served, performed]

theorem nothing_served (unasked : q.operation? = none) : (service.inMemory q s).2 = s := by
  simp only [respond_served, respond]
  cases led : Resource.ofPath? q.path with
  | none => rfl
  | some resource =>
      simp only
      cases applies : Operation.of? q.verb resource with
      | none => rfl
      | some operation =>
          simp only
          cases decoded : operation.decode with
          | error noun => rfl
          | ok named => simp [Request.operation?, led, applies, decoded, Except.toOption] at unasked

end Service

end SearchStore.Rest

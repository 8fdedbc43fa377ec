import SearchStore.Store.InMemory
import SearchStore.Store.KnownRelations

/-!
Operations on a storage in memory. The state of such a store is its memory and the relations it has
noted; each way operations are put together has its rule for what becomes of the state.
-/

set_option autoImplicit false

namespace SearchStore

structure Store.State where
  memory : Memory
  known : KnownRelations

def Store.State.fresh : Store.State := ⟨.empty, .empty⟩

namespace StoreM

open Store (State)

variable {α β : Type}

def inMemory (op : StoreM α) (s : State) : Except Failure α × State :=
  let ((result, known), memory) := (runWith Memory.answer op s.known).run s.memory
  (result, ⟨memory, known⟩)

theorem pure_in_memory (a : α) (s : State) : inMemory (pure a) s = (.ok a, s) := rfl

theorem throw_in_memory (e : Failure) (s : State) : inMemory (throw e : StoreM α) s = (.error e, s) := rfl

theorem ask_in_memory (r : StorageRequest) (s : State) :
    inMemory (ask r) s = (.ok (s.memory.serve r).1, ⟨(s.memory.serve r).2, s.known⟩) := rfl

theorem lift_in_memory (r : Except Failure α) (s : State) : inMemory (liftM r) s = (r, s) := by
  cases r <;> rfl

theorem get_in_memory (s : State) : inMemory (getThe KnownRelations) s = (.ok s.known, s) := rfl

theorem modify_in_memory (f : KnownRelations → KnownRelations) (s : State) :
    inMemory (modifyThe KnownRelations f) s = (.ok (), ⟨s.memory, f s.known⟩) := rfl

theorem continued_in_memory (op : StoreM α) (whole : StoreM β) (s : State)
    (rest : Except Failure α × KnownRelations → Dialogue Storage (Except Failure β × KnownRelations))
    (shape : whole s.known = op s.known >>= rest) :
    inMemory whole s = inMemory (fun known => rest ((inMemory op s).1, known)) (inMemory op s).2 := by
  have run : runWith Memory.answer whole s.known = _ :=
    (congrArg (Dialogue.run Memory.answer) shape).trans (Dialogue.run_bind Memory.answer (op s.known) rest)
  simp only [inMemory, run]
  rfl

theorem bind_in_memory (op : StoreM α) (f : α → StoreM β) (s : State) :
    inMemory (op >>= f) s =
      match inMemory op s with
      | (.ok a, after) => inMemory (f a) after
      | (.error e, after) => (.error e, after) := by
  refine (continued_in_memory op (op >>= f) s _ rfl).trans ?_
  obtain ⟨result, after⟩ := inMemory op s
  cases result <;> rfl

theorem try_in_memory (op : StoreM α) (handler : Failure → StoreM α) (s : State) :
    inMemory (tryCatch op handler) s =
      match inMemory op s with
      | (.ok a, after) => (.ok a, after)
      | (.error e, after) => inMemory (handler e) after := by
  refine (continued_in_memory op (tryCatch op handler) s _ rfl).trans ?_
  obtain ⟨result, after⟩ := inMemory op s
  cases result <;> rfl

theorem return_in_memory (op : StoreM α) (f : α → β) (s : State) :
    inMemory (do return f (← op)) s = ((inMemory op s).1.map f, (inMemory op s).2) := by
  rw [bind_in_memory]
  obtain ⟨result, after⟩ := inMemory op s
  cases result <;> rfl

end StoreM

end SearchStore

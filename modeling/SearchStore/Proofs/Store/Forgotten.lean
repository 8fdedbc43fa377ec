import SearchStore.Proofs.Store.Effects
import SearchStore.Proofs.Store.Noted

/-!
Forgetting what has been noted. A store in memory that forgets it before any of its operations
answers all of them alike and has the same in memory.
-/

set_option autoImplicit false

namespace SearchStore.Store

open StoreM

namespace State

variable {s : State}

def forgotten (s : State) : State := ⟨s.memory, .empty⟩

theorem sound_forgotten (sound : s.Sound) : s.forgotten.Sound := by
  refine { sound with noted := ?_ }
  intro r member
  cases member

theorem find_forgotten (s : State) (r : Relation) (id : String) : s.forgotten.find? r id = s.find? r id := rfl

theorem touch_forgotten (s : State) (r : Relation) : (s.forgotten.touch r).memory = (s.touch r).memory := by
  rw [touch_memory, touch_memory, forgotten]

theorem provide_forgotten (s : State) (r : Relation) (options : String) :
    (s.forgotten.provide r options).memory = (s.provide r options).memory := by
  simp only [provide, forgotten]
  cases s.memory.typeOf? r <;> rfl

theorem insert_provided_forgotten (s : State) (r : Relation) (source : Json) (id : Option String) :
    ((s.forgotten.provide r "").insert r source id).1 = ((s.provide r "").insert r source id).1 ∧
      ((s.forgotten.provide r "").insert r source id).2.memory = ((s.provide r "").insert r source id).2.memory := by
  have provided := provide_forgotten s r ""
  cases id with
  | none => simp only [insert, put, provided, and_self]
  | some id =>
      simp only [insert, put, provided]
      by_cases taken : ((s.provide r "").memory.table r).hasId id = true
      · simp only [if_pos taken, and_self]
      · simp only [if_neg taken, and_self]

theorem step_forgotten (sound : s.Sound) (op : Operation) :
    (op.step s.forgotten).1 = (op.step s).1 ∧ (op.step s.forgotten).2.memory = (op.step s).2.memory := by
  have bare := sound_forgotten sound
  cases op with
  | createCatalog | getIndex | findIndices | getType | findTypes => exact ⟨rfl, rfl⟩
  | createIndex name options =>
      simp only [Operation.step, Operation.perform, return_in_memory, create_index_in_memory, forgotten]
      cases checkIndexName name with
      | error e => exact ⟨rfl, rfl⟩
      | ok =>
          cases s.memory.index? name with
          | some entry => exact ⟨rfl, rfl⟩
          | none => exact ⟨rfl, rfl⟩
  | createType index type options =>
      simp only [Operation.step, Operation.perform, return_in_memory, create_type_in_memory sound, create_type_in_memory bare]
      cases Relation.ofNames index type with
      | error e => exact ⟨rfl, rfl⟩
      | ok r => exact ⟨rfl, provide_forgotten s r options⟩
  | replaceTypeOptions index type options =>
      simp only [Operation.step, Operation.perform, return_in_memory, replace_options_in_memory, forgotten, and_self]
  | createDocument index type source id =>
      simp only [Operation.step, Operation.perform, return_in_memory, create_document_in_memory sound,
        create_document_in_memory bare]
      cases place index type (id.filter (· ≠ "")) with
      | error e => exact ⟨rfl, rfl⟩
      | ok r =>
          obtain ⟨answer, left⟩ := insert_provided_forgotten s r source (id.filter (· ≠ ""))
          exact ⟨congrArg _ answer, left⟩
  | getDocument index type id =>
      simp only [Operation.step, Operation.perform, return_in_memory, get_document_in_memory sound,
        get_document_in_memory bare, find_forgotten]
      by_cases empty : id = ""
      · simp only [if_pos empty, forgotten, and_self]
      · simp only [if_neg empty, touch_forgotten, and_self]
  | documentExists index type id =>
      simp only [Operation.step, Operation.perform, return_in_memory, document_exists_in_memory sound,
        document_exists_in_memory bare, find_forgotten]
      by_cases empty : id = ""
      · simp only [if_pos empty, forgotten, and_self]
      · simp only [if_neg empty, touch_forgotten, and_self]
  | updateDocument index type source id =>
      simp only [Operation.step, Operation.perform, return_in_memory, update_document_in_memory sound,
        update_document_in_memory bare, find_forgotten]
      by_cases empty : id = ""
      · simp only [if_pos empty, forgotten, and_self]
      · simp only [if_neg empty]
        cases s.find? ⟨index, type⟩ id with
        | none => exact ⟨rfl, touch_forgotten s _⟩
        | some d => exact ⟨rfl, rfl⟩
  | deleteDocument index type id =>
      simp only [Operation.step, Operation.perform, return_in_memory, delete_document_in_memory sound,
        delete_document_in_memory bare, find_forgotten]
      by_cases empty : id = ""
      · simp only [if_pos empty, forgotten, and_self]
      · simp only [if_neg empty]
        cases s.find? ⟨index, type⟩ id with
        | none => exact ⟨trivial, touch_forgotten s _⟩
        | some d => exact ⟨trivial, rfl⟩
  | select index type predicate =>
      simp only [Operation.step, Operation.perform, return_in_memory, select_in_memory sound, select_in_memory bare,
        touch_forgotten, and_true]
      rfl

theorem step_alike {t : State} (sound : s.Sound) (other : t.Sound) (same : s.memory = t.memory) (op : Operation) :
    (op.step s).1 = (op.step t).1 ∧ (op.step s).2.memory = (op.step t).2.memory := by
  have bare : s.forgotten = t.forgotten := by rw [forgotten, same, forgotten]
  have left := step_forgotten sound op
  rw [bare] at left
  have right := step_forgotten other op
  exact ⟨left.1.symm.trans right.1, left.2.symm.trans right.2⟩

end State

open State

-- A run in which what has been noted is forgotten before the operations marked so.
def playForgetting : List (Bool × Operation) → State → List Result × State
  | [], s => ([], s)
  | (forget, op) :: rest, s =>
      let (result, s) := op.step (if forget then s.forgotten else s)
      let (results, s) := playForgetting rest s
      (result :: results, s)

theorem forgetting_alike {s t : State} (sound : s.Sound) (other : t.Sound) (same : s.memory = t.memory)
    (marked : List (Bool × Operation)) :
    (playForgetting marked s).1 = (play Operation.step (marked.map (·.2)) t).1 ∧
      (playForgetting marked s).2.memory = (play Operation.step (marked.map (·.2)) t).2.memory := by
  induction marked generalizing s t with
  | nil => exact ⟨rfl, same⟩
  | cons first rest ih =>
      obtain ⟨forget, op⟩ := first
      have start : (if forget then s.forgotten else s).Sound := by
        cases forget with
        | true => exact sound_forgotten sound
        | false => exact sound
      have agreed : (if forget then s.forgotten else s).memory = t.memory := by
        cases forget with
        | true => exact same
        | false => exact same
      obtain ⟨answer, left⟩ := step_alike start other agreed op
      obtain ⟨answers, last⟩ := ih (step_sound op start) (step_sound op other) left
      exact ⟨congrArg₂ List.cons answer answers, last⟩

variable {ops : List Operation} {known : KnownRelations} {calls : List (Exchange Storage)} {results : List Result}

/-- A relation is noted only after a storage has reported its type, and forgetting what is noted changes no answer in memory. -/
theorem noted_relations_are_true (run : Run ops .empty calls results known) :
    (∀ {index type r}, known.find? index type = some r →
      Relation.ofNames index type = .ok r ∧ ∃ e ∈ calls, e.Reports r) ∧
    (∀ {next more answers after}, Run next known more answers after → known.Growth after more) ∧
    (∀ {op : Operation} {index type r more answer after}, op.documents? = some (index, type) →
      known.find? index type = some r → StoreM.Passes op.perform known more answer after →
      after = known ∧ ∀ e ∈ more, e.request.documents? = some r) ∧
    ∀ marked : List (Bool × Operation),
      (playForgetting marked .fresh).1 = (play Operation.step (marked.map (·.2)) .fresh).1 ∧
        (playForgetting marked .fresh).2.memory = (play Operation.step (marked.map (·.2)) .fresh).2.memory := by
  refine ⟨?_, ?_, ?_, ?_⟩
  · intro index type r found
    rcases (run_growth run).entered found with never | reported
    · cases never
    · exact reported
  · intro next more answers after later
    exact run_growth later
  · intro op index type r more answer after about found passed
    exact confined_perform about found passed
  · exact forgetting_alike sound_fresh sound_fresh rfl

def lostDocument : Operation := .getDocument "a" "b" "1"

def lostExchanges : List (Exchange Storage) :=
  [⟨.fetchType "a" "b", .ok (some ⟨"b", "a", ""⟩)⟩, ⟨.fetchDocument ⟨"a", "b"⟩ "1", .error (.transport "gone")⟩]

theorem lost_document_noted :
    Run [lostDocument] .empty lostExchanges [.error (.transport "gone")] ⟨[⟨"a", "b"⟩]⟩ ∧
      (∃ e ∈ lostExchanges, e.Reports ⟨"a", "b"⟩) ∧
      ∀ {more answer after}, StoreM.Passes lostDocument.perform ⟨[⟨"a", "b"⟩]⟩ more answer after →
        ∀ e ∈ more, e.request.documents? = some ⟨"a", "b"⟩ := by
  have passed : StoreM.Passes lostDocument.perform .empty lostExchanges (.error (.transport "gone")) ⟨[⟨"a", "b"⟩]⟩ :=
    .ask _ _ _ _ _ (.ask _ _ _ _ _ (.done _))
  have run : Run [lostDocument] .empty lostExchanges [.error (.transport "gone")] ⟨[⟨"a", "b"⟩]⟩ :=
    .cons lostDocument [] .empty _ _ lostExchanges [] _ [] passed (.nil _)
  obtain ⟨reported, _, quiet, _⟩ := noted_relations_are_true run
  have found : KnownRelations.find? ⟨[⟨"a", "b"⟩]⟩ "a" "b" = some ⟨"a", "b"⟩ := rfl
  refine ⟨run, (reported found).2, ?_⟩
  intro more answer after later
  exact (quiet rfl found later).2

end SearchStore.Store

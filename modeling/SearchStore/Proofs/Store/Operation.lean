import SearchStore.Proofs.Store.State
import SearchStore.Store.Operations

/-!
The operations of the store as data, with their outcomes, and runs of them one after another.
-/

set_option autoImplicit false

namespace SearchStore

def Document.revised (d : Document) (source : Json) : Document := { d with source, version := d.version + 1 }

namespace Store

def place (index type : String) : Option String → Except Failure Relation
  | some id =>
      match checkId id with
      | .error e => .error e
      | .ok _ => Relation.ofNames index type
  | none => Relation.ofNames index type

theorem relation_of_names {index type : String} {r : Relation} (valid : Relation.ofNames index type = .ok r) :
    r = ⟨index, type⟩ := by
  simp only [Relation.ofNames, bind, Except.bind] at valid
  repeat' split at valid
  all_goals simp_all

theorem valid_pair {index type : String} {r : Relation} (valid : Relation.ofNames index type = .ok r) :
    Relation.ofNames r.index r.type = .ok r := by
  obtain rfl := relation_of_names valid
  exact valid

theorem place_iff {index type : String} {id : Option String} {r : Relation} :
    place index type id = .ok r ↔ (∀ given ∈ id, checkId given = .ok ()) ∧ Relation.ofNames index type = .ok r := by
  cases id with
  | none => simp [place]
  | some id =>
      rw [place]
      cases checked : checkId id <;> simp [checked]

inductive Operation where
  | createCatalog
  | createIndex (name options : String)
  | getIndex (name : String)
  | findIndices (pattern : String)
  | createType (index name options : String)
  | getType (index name : String)
  | replaceTypeOptions (index name options : String)
  | findTypes (index pattern : String)
  | createDocument (index type : String) (source : Json) (id : Option String)
  | getDocument (index type id : String)
  | documentExists (index type id : String)
  | updateDocument (index type : String) (source : Json) (id : String)
  | deleteDocument (index type id : String)
  | select (index type : String) (predicate : Predicate)

inductive Outcome where
  | done
  | index (entry : IndexEntry)
  | foundIndex (entry : Option IndexEntry)
  | names (names : List String)
  | type (entry : TypeEntry)
  | foundType (entry : Option TypeEntry)
  | document (d : Document)
  | foundDocument (d : Option Document)
  | flag (b : Bool)
  | documents (documents : List Document)

abbrev Result := Except Failure Outcome

namespace Operation

def perform : Operation → StoreM Outcome
  | .createCatalog => do Store.createCatalog; return .done
  | .createIndex name options => do return .index (← Store.createIndex name options)
  | .getIndex name => do return .foundIndex (← Store.getIndex name)
  | .findIndices pattern => do return .names (← Store.findIndices pattern)
  | .createType index name options => do return .type (← Store.createType index name options)
  | .getType index name => do return .foundType (← Store.getType index name)
  | .replaceTypeOptions index name options => do return .type (← Store.replaceTypeOptions index name options)
  | .findTypes index pattern => do return .names (← Store.findTypes index pattern)
  | .createDocument index type source id => do return .document (← Store.createDocument index type source id)
  | .getDocument index type id => do return .foundDocument (← Store.getDocument index type id)
  | .documentExists index type id => do return .flag (← Store.documentExists index type id)
  | .updateDocument index type source id => do return .document (← Store.updateDocument index type source id)
  | .deleteDocument index type id => do return .foundDocument (← Store.deleteDocument index type id)
  | .select index type predicate => do return .documents (← Store.select index type predicate)

def relation? : Operation → Option Relation
  | .createType index type _ | .getType index type | .replaceTypeOptions index type _
  | .createDocument index type _ _ | .getDocument index type _ | .documentExists index type _
  | .updateDocument index type _ _ | .deleteDocument index type _ | .select index type _ =>
      (Relation.ofNames index type).toOption
  | _ => none

def step (op : Operation) (s : State) : Result × State := op.perform.inMemory s

end Operation

def play {σ : Type} (step : Operation → σ → Result × σ) : List Operation → σ → List Result × σ
  | [], s => ([], s)
  | op :: rest, s =>
      let (result, s) := step op s
      let (results, s) := play step rest s
      (result :: results, s)

def Reachable (s : State) : Prop := ∃ ops, (play Operation.step ops .fresh).2 = s

theorem play_append {σ : Type} (step : Operation → σ → Result × σ) (first later : List Operation) (s : σ) :
    (play step (first ++ later) s).2 = (play step later (play step first s).2).2 := by
  induction first generalizing s with
  | nil => rfl
  | cons op rest ih => exact ih (step op s).2

theorem reachable_step {s : State} (op : Operation) (reachable : Reachable s) : Reachable (op.step s).2 := by
  obtain ⟨ops, rfl⟩ := reachable
  exact ⟨ops ++ [op], play_append Operation.step ops [op] .fresh⟩

theorem reachable_induction {holds : State → Prop} (first : holds .fresh)
    (kept : ∀ (op : Operation) (s : State), holds s → holds (op.step s).2) {s : State} (reachable : Reachable s) :
    holds s := by
  obtain ⟨ops, rfl⟩ := reachable
  have run (s : State) (start : holds s) : holds (play Operation.step ops s).2 := by
    induction ops generalizing s with
    | nil => exact start
    | cons op rest ih => exact ih _ (kept op s start)
  exact run .fresh first

end Store

end SearchStore

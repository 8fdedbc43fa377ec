import SearchStore.Proofs.Store.Asked
import SearchStore.Proofs.Store.Noted

/-!
Requests for a type to be made. An operation puts one of them at most. When it fails it is the last
request of the operation, which fails with it.
-/

set_option autoImplicit false

namespace SearchStore

def StorageRequest.Provides : StorageRequest → Prop
  | .insertType _ _ => True
  | _ => False

namespace StoreM

open KnownRelations
open Store (Asks)

variable {α β : Type} {index type options : String} {before after : KnownRelations} {calls : List (Exchange Storage)}
  {r : Relation} {made : TypeEntry → Prop}

-- What an operation asks with regard to a type: there is one request for it at most, what was made is known
-- by the reply, and if that is a failure it is the last reply and the result.
inductive Made (r : Relation) (options : String) (made : TypeEntry → Prop) (result : Except Failure α) :
    List (Exchange Storage) → Prop where
  | refused (calls : List (Exchange Storage)) (others : ∀ c ∈ calls, ¬ c.request.Provides) (none : ∀ entry, ¬ made entry) :
      Made r options made result calls
  | asked (earlier later : List (Exchange Storage)) (reply : Except Failure (Option TypeEntry))
      (first : ∀ c ∈ earlier, ¬ c.request.Provides) (last : ∀ c ∈ later, ¬ c.request.Provides)
      (exact : ∀ entry, made entry ↔ reply = .ok (some entry))
      (fails : ∀ e, reply = .error e → later = [] ∧ result = .error e) :
      Made r options made result (earlier ++ ⟨.insertType r options, reply⟩ :: later)

theorem passes_request {q : StorageRequest} {f : q.Answer → StoreM β} {result : Except Failure β}
    (passed : Passes (ask q >>= f) before calls result after) :
    (∃ e, calls = [⟨q, .error e⟩] ∧ result = .error e) ∨
      ∃ (answer : q.Answer) (later : List (Exchange Storage)), calls = ⟨q, .ok answer⟩ :: later ∧
        Passes (f answer) before later result after := by
  rcases passes_bind.mp passed with ⟨e, failed, rfl⟩ | ⟨answer, between, first, later, rfl, asked, onward⟩
  · obtain ⟨rfl, rfl⟩ := passes_ask.mp failed
    exact Or.inl ⟨e, rfl, rfl⟩
  · obtain ⟨rfl, rfl⟩ := passes_ask.mp asked
    exact Or.inr ⟨answer, later, rfl, onward⟩

theorem passes_noted {r : Relation} {f : Relation → β} {result : Except Failure β}
    (passed : Passes (do return f (← note r)) before calls result after) : calls = [] ∧ ∃ q, result = .ok (f q) := by
  obtain ⟨noted, inside, rfl⟩ := passes_return.mp passed
  obtain ⟨rfl, same⟩ := Dialogue.passes_done.mp inside
  cases same
  exact ⟨rfl, _, rfl⟩

theorem establish_made {result : Except Failure (Relation × Creation)}
    (passed : Passes (establish index type options) before calls result after) :
    Made ⟨index, type⟩ options (fun entry => ∃ r, result = .ok (r, .created entry)) result calls := by
  have alone {q : StorageRequest} {answer : Storage.Reply q} (other : ¬ q.Provides) :
      ∀ c ∈ [(⟨q, answer⟩ : Exchange Storage)], ¬ c.request.Provides := List.forall_mem_singleton.mpr other
  rw [establish] at passed
  cases valid : Relation.ofNames index type with
  | error e =>
      rw [valid] at passed
      obtain ⟨rfl, rfl, -⟩ := passes_throw.mp passed
      exact .refused [] (by simp) (by simp)
  | ok r =>
      obtain rfl := Store.relation_of_names valid
      rw [valid] at passed
      change Passes (ask (.insertIndex index "") >>= _) before calls result after at passed
      rcases passes_request passed with ⟨e, rfl, rfl⟩ | ⟨_, later, rfl, indexed⟩
      · exact .refused _ (alone id) (by simp)
      rcases passes_request indexed with ⟨e, rfl, rfl⟩ | ⟨created, later, rfl, tried⟩
      · exact .asked [_] [] (.error e) (alone id) (by simp) (by simp) (by simp)
      cases created with
      | some entry =>
          obtain ⟨rfl, q, rfl⟩ := passes_noted tried
          exact .asked [_] [] (.ok (some entry)) (alone id) (by simp) (by simp) (by simp)
      | none =>
          rcases passes_request tried with ⟨e, rfl, rfl⟩ | ⟨fetched, later, rfl, shown⟩
          · exact .asked [_] [_] (.ok none) (alone id) (alone id) (by simp) (by simp)
          cases fetched with
          | some entry =>
              obtain ⟨rfl, q, rfl⟩ := passes_noted shown
              exact .asked [_] [_] (.ok none) (alone id) (alone id) (by simp) (by simp)
          | none =>
              obtain ⟨rfl, rfl, -⟩ := passes_throw.mp shown
              exact .asked [_] [_] (.ok none) (alone id) (alone id) (by simp) (by simp)

theorem made_failed {e : Failure} {made' : TypeEntry → Prop} (known : Made r options made (.error e : Except Failure α) calls)
    (same : ∀ entry, made entry ↔ made' entry) : Made r options made' (.error e : Except Failure β) calls := by
  cases known with
  | refused _ others none => exact .refused calls others fun entry => mt (same entry).mpr (none entry)
  | asked earlier later reply first last exact fails =>
      refine .asked earlier later reply first last (fun entry => (same entry).symm.trans (exact entry)) fun e' failed => ?_
      obtain ⟨ended, fate⟩ := fails e' failed
      cases fate
      exact ⟨ended, rfl⟩

theorem made_onward {a : α} {result : Except Failure β} {later : List (Exchange Storage)} {made' : TypeEntry → Prop}
    (known : Made r options made (.ok a) calls) (others : ∀ c ∈ later, ¬ c.request.Provides)
    (same : ∀ entry, made entry ↔ made' entry) : Made r options made' result (calls ++ later) := by
  cases known with
  | refused _ first none =>
      exact .refused _ (List.forall_mem_append.mpr ⟨first, others⟩) fun entry => mt (same entry).mpr (none entry)
  | asked earlier between reply first last exact fails =>
      rw [List.append_assoc, List.cons_append]
      refine .asked earlier _ reply first (List.forall_mem_append.mpr ⟨last, others⟩)
        (fun entry => (same entry).symm.trans (exact entry)) fun e failed => ?_
      cases (fails e failed).2

theorem made_after {result : Except Failure α} {later : List (Exchange Storage)} (known : Made r options made result later)
    (others : ∀ c ∈ calls, ¬ c.request.Provides) : Made r options made result (calls ++ later) := by
  cases known with
  | refused _ last none => exact .refused _ (List.forall_mem_append.mpr ⟨others, last⟩) none
  | asked earlier between reply first last exact fails =>
      rw [← List.append_assoc]
      exact .asked _ between reply (List.forall_mem_append.mpr ⟨others, first⟩) last exact fails

theorem create_type_made {result : Except Failure TypeEntry}
    (passed : Passes (Store.createType index type options) before calls result after) :
    Made ⟨index, type⟩ options (fun entry => result = .ok entry) result calls := by
  rcases passes_bind.mp passed with ⟨e, failed, rfl⟩ | ⟨⟨r, creation⟩, between, first, later, rfl, established, returned⟩
  · exact made_failed (establish_made failed) (by simp)
  · cases creation with
    | created entry =>
        obtain ⟨rfl, rfl, -⟩ := passes_pure.mp returned
        exact made_onward (establish_made established) (by simp) (by simp)
    | existing entry =>
        obtain ⟨rfl, rfl, -⟩ := passes_throw.mp returned
        exact made_onward (establish_made established) (by simp) (by simp)

def Once (op : StoreM α) : Prop :=
  ∀ ⦃before calls result after⦄, Passes op before calls result after → ∃ r options made, Made r options made result calls

theorem made_without {result : Except Failure α} (others : ∀ c ∈ calls, ¬ c.request.Provides) :
    ∃ r options made, Made r options made result calls :=
  ⟨⟨"", ""⟩, "", fun _ => False, .refused calls others fun _ => id⟩

theorem once_of_asks {op : StoreM α} (others : Asks (¬ StorageRequest.Provides ·) op) : Once op :=
  fun before _ _ _ passed => made_without (Dialogue.puts_passed (others before) passed)

theorem once_then {op : StoreM α} {f : α → StoreM β} (first : Once op) (others : ∀ a, Asks (¬ StorageRequest.Provides ·) (f a)) :
    Once (op >>= f) := by
  intro before calls result after passed
  rcases passes_bind.mp passed with ⟨e, failed, rfl⟩ | ⟨a, between, start, later, rfl, left, right⟩
  · obtain ⟨r, options, made, known⟩ := first failed
    exact ⟨r, options, made, made_failed known fun _ => Iff.rfl⟩
  · obtain ⟨r, options, made, known⟩ := first left
    exact ⟨r, options, made, made_onward known (Dialogue.puts_passed (others a between) right) fun _ => Iff.rfl⟩

theorem once_after {op : StoreM α} {f : α → StoreM β} (others : Asks (¬ StorageRequest.Provides ·) op)
    (rest : ∀ a, Once (f a)) : Once (op >>= f) := by
  intro before calls result after passed
  rcases passes_bind.mp passed with ⟨e, failed, rfl⟩ | ⟨a, between, start, later, rfl, left, right⟩
  · exact made_without (Dialogue.puts_passed (others before) failed)
  · obtain ⟨r, options, made, known⟩ := rest a right
    exact ⟨r, options, made, made_after known (Dialogue.puts_passed (others before) left)⟩

theorem other_requests (q : StorageRequest) (reads : ¬ q.WritesType) : ¬ q.Provides := by
  cases q with
  | insertType => exact absurd trivial reads
  | _ => exact id

theorem once_obtain : Once (obtain index type) := by
  refine once_after (Store.asks_look_up id) fun known => ?_
  cases known with
  | some r => exact once_of_asks (Store.asks_pure r)
  | none =>
      refine once_then (fun _ _ _ _ passed => ⟨_, _, _, establish_made passed⟩) fun established => ?_
      exact Store.asks_pure established.1

theorem once_create_document {source : Json} {id : Option String} : Once (Store.createDocument index type source id) := by
  have insert (r : Relation) (id : Option String) : ¬ (StorageRequest.insertDocument r id source).Provides := fun made => made
  rw [Store.createDocument]
  generalize id.filter (· ≠ "") = id
  cases id with
  | none =>
      refine once_then once_obtain fun r => Store.asks_bind (Store.asks_request (insert r none)) fun inserted => ?_
      cases inserted with
      | some d => exact Store.asks_pure d
      | none => exact Store.asks_throw _
  | some id =>
      refine once_after (Store.asks_lift _) fun _ => once_then once_obtain fun r => ?_
      refine Store.asks_bind (Store.asks_request (insert r (some id))) fun inserted => ?_
      cases inserted with
      | some d => exact Store.asks_pure d
      | none => exact Store.asks_throw _

theorem once_perform (op : Store.Operation) : Once op.perform := by
  cases op with
  | createType index type options =>
      exact once_then (fun _ _ _ _ passed => ⟨_, _, _, create_type_made passed⟩) fun _ => Store.asks_pure _
  | createDocument index type source id => exact once_then once_create_document fun _ => Store.asks_pure _
  | replaceTypeOptions index type options =>
      exact once_of_asks (Store.asks_bind (Store.asks_replace_options id) fun _ => Store.asks_pure _)
  | _ => exact once_of_asks (Store.asks_perform _ other_requests nofun nofun)

end StoreM

end SearchStore

import SearchStore.Bulk.Action
import SearchStore.Proofs.Failures
import SearchStore.Proofs.Store.Operation

/-!
What is known of the actions a body is read as: their names and ids are accepted by the store, and
they have the ids and payloads their kinds need. A body that is not read is malformed.
-/

set_option autoImplicit false

namespace SearchStore

theorem check_name_malformed (noun name : String) : FailsMalformed (checkName noun name) := by
  rw [checkName]
  split
  · exact malformed_error _
  · split
    · exact malformed_ok _
    · exact malformed_error _

theorem check_index_name_malformed (name : String) : FailsMalformed (checkIndexName name) := by
  refine malformed_bind (check_name_malformed "index" name) fun _ => ?_
  split
  · exact malformed_error _
  · exact malformed_ok _

theorem check_id_malformed (id : String) : FailsMalformed (checkId id) := by
  rw [checkId]
  split
  · exact malformed_ok _
  · exact malformed_error _

theorem of_names_malformed (index type : String) : FailsMalformed (Relation.ofNames index type) := by
  refine malformed_bind (check_index_name_malformed index) fun _ => ?_
  refine malformed_bind (check_name_malformed "type" type) fun _ => ?_
  dsimp only
  split
  · exact malformed_ok _
  · exact malformed_error _

theorem place_malformed (index type : String) (id : Option String) : FailsMalformed (Store.place index type id) := by
  cases id with
  | none => exact of_names_malformed index type
  | some id =>
      rw [Store.place]
      cases failed : checkId id with
      | ok => exact of_names_malformed index type
      | error e =>
          obtain ⟨cause, rfl⟩ := check_id_malformed id e failed
          exact malformed_error cause

namespace Bulk

open Json

theorem action_malformed (index type : Option String) (n : Nat) (line : List Char) :
    FailsMalformed (action index type n line) := by
  rw [action]
  split
  · exact malformed_error _
  · split
    · exact malformed_error _
    · split
      · exact malformed_error _
      · dsimp only
        split
        · exact malformed_error _
        · refine malformed_bind (of_names_malformed _ _) fun _ => ?_
          split
          · refine malformed_bind (check_id_malformed _) fun _ => malformed_ok _
          · exact malformed_ok _

theorem payload_malformed (n : Nat) (line : List Char) : FailsMalformed (payload n line) := by
  rw [payload]
  split
  · exact malformed_ok _
  · exact malformed_error _

theorem actions_malformed (index type : Option String) (lines : List (Nat × List Char)) :
    FailsMalformed (actions index type lines) := by
  induction lines using actions.induct with
  | case1 => exact malformed_ok _
  | case2 n line rest afterPayload next =>
      rw [actions]
      refine malformed_bind (action_malformed index type n line) fun a => ?_
      split
      · cases rest with
        | nil => exact malformed_error _
        | cons source later =>
            refine malformed_bind (payload_malformed source.1 source.2) fun v => ?_
            exact malformed_bind afterPayload fun later => malformed_ok _
      · exact malformed_bind next fun later => malformed_ok _

theorem action_accepted {index type : Option String} {n : Nat} {line : List Char} {head : ActionHead}
    {i t : String} (read : (Draft.ofChars? line).bind ActionHead.ofDraft? = some head)
    (indexed : (head.index <|> index) = some i) (typed : (head.type <|> type) = some t) (a : Bulk.Action) :
    action index type n line = .ok a ↔
      (head.kind.needsId = true → (head.id.filter (· ≠ "")).isSome) ∧
        Store.place i t (head.id.filter (· ≠ "")) = .ok ⟨i, t⟩ ∧
        a = ⟨head.kind, i, t, head.id.filter (· ≠ ""), none⟩ := by
  rw [action, read]
  simp only [indexed, typed, Store.place_iff]
  cases valid : Relation.ofNames i t with
  | error e =>
      cases head.id.filter (· ≠ "") <;> cases head.kind.needsId <;> simp [malformed, bind, Except.bind]
  | ok r =>
      obtain rfl := Store.relation_of_names valid
      cases head.id.filter (· ≠ "") with
      | none =>
          cases head.kind.needsId with
          | true => simp [malformed]
          | false => simpa [bind, Except.bind] using eq_comm
      | some id =>
          cases checked : checkId id with
          | error e => simp [checked, bind, Except.bind]
          | ok => simpa [checked, bind, Except.bind] using eq_comm

theorem action_read {index type : Option String} {n : Nat} {line : List Char} {a : Bulk.Action}
    (accepted : action index type n line = .ok a) :
    ∃ head i t, (Draft.ofChars? line).bind ActionHead.ofDraft? = some head ∧ (head.index <|> index) = some i ∧
      (head.type <|> type) = some t := by
  rw [action] at accepted
  split at accepted
  · cases accepted
  · rename_i head read
    split at accepted
    · cases accepted
    · rename_i i indexed
      split at accepted
      · cases accepted
      · rename_i t typed
        exact ⟨head, i, t, read, indexed, typed⟩

structure Addressed (a : Bulk.Action) : Prop where
  admitted : Store.place a.index a.type a.id = .ok ⟨a.index, a.type⟩
  named : a.id ≠ some ""
  identified : a.kind.needsId = true → a.id.isSome

theorem kept_id {a : Bulk.Action} (addressed : Addressed a) : a.id.filter (· ≠ "") = a.id := by
  have named := addressed.named
  cases given : a.id with
  | none => rfl
  | some id =>
      rw [given] at named
      simpa using named

theorem action_addressed {index type : Option String} {n : Nat} {line : List Char} {a : Bulk.Action}
    (accepted : action index type n line = .ok a) : Addressed a ∧ a.source = none := by
  obtain ⟨head, i, t, read, indexed, typed⟩ := action_read accepted
  obtain ⟨identified, admitted, rfl⟩ := (action_accepted read indexed typed a).mp accepted
  refine ⟨⟨admitted, ?_, identified⟩, rfl⟩
  simp [Option.filter_eq_some_iff]

structure Acceptable (a : Bulk.Action) : Prop extends Addressed a where
  filled : a.source.isSome = a.kind.takesPayload

theorem actions_acceptable {index type : Option String} {lines : List (Nat × List Char)} {as : List Bulk.Action}
    (accepted : actions index type lines = .ok as) : ∀ a ∈ as, Acceptable a := by
  induction lines using actions.induct generalizing as with
  | case1 =>
      cases accepted
      exact fun a member => absurd member List.not_mem_nil
  | case2 n line rest afterPayload next =>
      rw [actions] at accepted
      obtain ⟨a, first, accepted⟩ := accepted_bind accepted
      obtain ⟨addressed, bare⟩ := action_addressed first
      split at accepted
      · rename_i takes
        cases rest with
        | nil => cases accepted
        | cons source later =>
            obtain ⟨v, _, accepted⟩ := accepted_bind accepted
            obtain ⟨others, read, accepted⟩ := accepted_bind accepted
            cases accepted
            rintro b (_ | ⟨_, member⟩)
            · exact ⟨⟨addressed.admitted, addressed.named, addressed.identified⟩, takes.symm⟩
            · exact afterPayload read b member
      · rename_i bares
        obtain ⟨others, read, accepted⟩ := accepted_bind accepted
        cases accepted
        rintro b (_ | ⟨_, member⟩)
        · exact ⟨addressed, by simpa [bare] using bares⟩
        · exact next read b member

theorem parse_acceptable {body : String} {index type : Option String} {as : List Bulk.Action}
    (parsed : parse body index type = .ok as) : ∀ a ∈ as, Acceptable a :=
  actions_acceptable parsed

theorem parse_malformed (body : String) (index type : Option String) : FailsMalformed (parse body index type) :=
  actions_malformed index type (lines body)

end Bulk

end SearchStore

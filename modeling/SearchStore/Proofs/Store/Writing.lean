import SearchStore.Proofs.Store.Runs

/-!
Writing one document. A write that succeeds answers the first version of a document that was not there,
or the next version of the one that was, and the document is then found as it was answered. A document
that has been deleted is not found.
-/

set_option autoImplicit false

namespace SearchStore

namespace Store

open Store.State StoreM

variable {s : State} {r : Relation} {index type id : String} {source : Json} {d e : Document}

inductive Supersedes (before : Option Document) (d : Document) : Prop where
  | first (absent : before = none) (version : d.version = 1)
  | next (e : Document) (present : before = some e) (positive : 1 ≤ e.version) (version : d.version = e.version + 1)

structure Writes (r : Relation) (s after : State) (d : Document) : Prop where
  filled : d.id ≠ ""
  supersedes : Supersedes (s.find? r d.id) d
  kept : after.find? r d.id = some d

theorem returned {α β : Type} {op : StoreM α} {f : α → β} {b : β} {after : State}
    (ran : StoreM.inMemory (do return f (← op)) s = (.ok b, after)) : ∃ a, op.inMemory s = (.ok a, after) ∧ b = f a := by
  rw [return_in_memory] at ran
  generalize op.inMemory s = done at ran ⊢
  obtain ⟨result, last⟩ := done
  cases result with
  | error e => cases ran
  | ok a =>
      cases ran
      exact ⟨a, rfl, rfl⟩

theorem version_positive (reachable : Reachable s) (found : s.find? r id = some e) : 1 ≤ e.version := by
  obtain ⟨ops, rfl⟩ := reachable
  rw [find_typed (found_entry found)] at found
  exact (made_rows (table_made ops r) e (Table.find_some found).1).2.1

theorem find_touched (s : State) (q r : Relation) (id : String) : (s.touch q).find? r id = s.find? r id := by
  simp only [State.find?, rows, touch_memory]

theorem absent_in_table (absent : (s.memory.table r).find? id = none) : s.find? r id = none := by
  cases present : s.memory.typeOf? r with
  | some entry => rw [find_typed (Option.isSome_of_eq_some present), absent]
  | none =>
      rw [State.find?, rows, present]
      rfl

theorem find_put (typed : (s.memory.typeOf? r).isSome) (t : Table) (id : String) : (s.put r t).find? r id = t.find? id := by
  have kept : ((s.put r t).memory.typeOf? r).isSome := typed
  rw [find_typed kept]
  exact congrArg (Table.find? · id) (Memory.table_set_same t)

theorem insert_writes {given : Option String} {after : State} (filled : ∀ i ∈ given, i ≠ "")
    (made : (s.provide r "").insert r source given = (.ok d, after)) : Writes r s after d := by
  have typed := provided_entry s r ""
  have held : (s.provide r "").memory.table r = s.memory.table r := provide_table
  cases given with
  | none =>
      have absent := Deed.number_absent (s.memory.table r)
      rw [State.insert, held] at made
      cases made
      refine ⟨Nat.repr_ne_empty, .first (absent_in_table absent) rfl, ?_⟩
      rw [find_put typed]
      exact Table.find_insert_same (d := ⟨toString (s.memory.table r).nextFree, source, 1⟩) absent
  | some id =>
      rw [State.insert, held] at made
      by_cases taken : (s.memory.table r).hasId id = true
      · rw [if_pos taken] at made
        cases made
      · have absent : (s.memory.table r).find? id = none := by rwa [Table.find_none, ← Table.has_id]
        rw [if_neg taken] at made
        cases made
        refine ⟨filled id rfl, .first (absent_in_table absent) rfl, ?_⟩
        rw [find_put typed]
        exact Table.find_insert_same (d := ⟨id, source, 1⟩) absent

theorem creation_writes {given : Option String} {after : State} (sound : s.Sound)
    (made : (createDocument index type source given).inMemory s = (.ok d, after)) : Writes ⟨index, type⟩ s after d := by
  rw [create_document_in_memory sound] at made
  cases accepted : place index type (given.filter (· ≠ "")) with
  | error e =>
      rw [accepted] at made
      cases made
  | ok r =>
      obtain rfl := relation_of_names (place_iff.mp accepted).2
      rw [accepted] at made
      refine insert_writes (fun i member => ?_) made
      simpa using (Option.filter_eq_some_iff.mp member).2

theorem update_finds (sound : s.Sound) (made : ((updateDocument index type source id).inMemory s).1 = .ok d) :
    id ≠ "" ∧ ∃ e, s.find? ⟨index, type⟩ id = some e ∧ d = e.revised source ∧ d.id = id := by
  rw [update_document_in_memory sound] at made
  by_cases empty : id = ""
  · rw [if_pos empty] at made
    cases made
  · rw [if_neg empty] at made
    cases found : s.find? ⟨index, type⟩ id with
    | none =>
        rw [found] at made
        cases made
    | some e =>
        rw [found] at made
        cases made
        have held := found
        rw [find_typed (found_entry found)] at held
        exact ⟨empty, e, rfl, rfl, (Table.find_some held).2⟩

theorem update_writes {after : State} (reachable : Reachable s)
    (made : (updateDocument index type source id).inMemory s = (.ok d, after)) : Writes ⟨index, type⟩ s after d := by
  have sound := reachable_sound reachable
  obtain ⟨filled, e, found, rfl, here⟩ := update_finds sound (congrArg Prod.fst made)
  have typed := found_entry found
  have present : (s.memory.table ⟨index, type⟩).hasId (e.revised source).id = true := by
    rw [here, Table.hasId, ← find_typed typed, found]
    rfl
  refine ⟨here ▸ filled, ?_, ?_⟩
  · rw [here]
    exact .next e found (version_positive reachable found) rfl
  · rw [update_document_in_memory sound, if_neg filled, found] at made
    cases made
    exact (find_put typed _ _).trans (Table.find_replace_same present)

theorem absent_untaken (sound : s.Sound) (unshared : s.Unshared r) (absent : s.find? r id = none) :
    (s.memory.table r).hasId id = false := by
  rw [Table.hasId, ← find_unshared sound unshared, absent, Option.isSome_none]

theorem supplied_creation (sound : s.Sound) (index type : String) (source : Json) (filled : id ≠ "") :
    ((createDocument index type source (some id)).inMemory s).1 =
      match place index type (some id) with
      | .error e => .error e
      | .ok r =>
          if (s.memory.table r).hasId id then .error (.illegalOperation (.documentExists id)) else .ok ⟨id, source, 1⟩ := by
  have kept : (some id).filter (· ≠ "") = some id := Option.filter_some_pos (by simpa using filled)
  rw [create_document_in_memory sound, kept]
  cases place index type (some id) with
  | error e => rfl
  | ok r =>
      have held : (s.provide r "").memory.table r = s.memory.table r := provide_table
      simp only [State.insert, held]
      split <;> rfl

def indexDocument (index type : String) (source : Json) (given : Option String) : StoreM Document := do
  if ← documentExists index type (given.getD "") then updateDocument index type source (given.getD "")
  else createDocument index type source given

def indexing (index type : String) (source : Json) (given : Option String) (found : Option Document) : StoreM Document :=
  if found.isSome then updateDocument index type source (given.getD "") else createDocument index type source given

theorem index_in_memory (sound : s.Sound) (index type : String) (source : Json) (given : Option String) :
    (indexDocument index type source given).inMemory s =
      if given.getD "" = "" then (createDocument index type source given).inMemory s
      else (indexing index type source given (s.find? ⟨index, type⟩ (given.getD ""))).inMemory (s.touch ⟨index, type⟩) := by
  rw [indexDocument, bind_in_memory, document_exists_in_memory sound]
  by_cases empty : given.getD "" = ""
  · rw [if_pos empty, if_pos empty]
    rfl
  · rw [if_neg empty, if_neg empty]
    rfl

theorem index_under (sound : s.Sound) (index type : String) (source : Json) (filled : id ≠ "") :
    (indexDocument index type source (some id)).inMemory s =
      (indexing index type source (some id) (s.find? ⟨index, type⟩ id)).inMemory (s.touch ⟨index, type⟩) :=
  (index_in_memory sound index type source (some id)).trans (if_neg filled)

theorem touch_reachable (reachable : Reachable s) (r : Relation) : Reachable (s.touch r) := by
  have kept := reachable_step (.select r.index r.type .matchAll) reachable
  rwa [Operation.step, Operation.perform, return_in_memory, select_in_memory (reachable_sound reachable)] at kept

theorem index_writes {given : Option String} {after : State} (reachable : Reachable s)
    (made : (indexDocument index type source given).inMemory s = (.ok d, after)) : Writes ⟨index, type⟩ s after d := by
  have sound := reachable_sound reachable
  rw [index_in_memory sound] at made
  by_cases empty : given.getD "" = ""
  · rw [if_pos empty] at made
    exact creation_writes sound made
  · rw [if_neg empty, indexing] at made
    have touched := touch_reachable reachable ⟨index, type⟩
    have wrote : Writes ⟨index, type⟩ (s.touch ⟨index, type⟩) after d := by
      cases there : (s.find? ⟨index, type⟩ (given.getD "")).isSome with
      | true =>
          rw [there] at made
          exact update_writes touched made
      | false =>
          rw [there] at made
          exact creation_writes (reachable_sound touched) made
    have before := wrote.supersedes
    rw [find_touched] at before
    exact ⟨wrote.filled, before, wrote.kept⟩

theorem touch_unshared (unshared : s.Unshared r) (q : Relation) : (s.touch q).Unshared r := by
  rw [State.Unshared, touch_memory]
  exact unshared

theorem index_succeeds (sound : s.Sound) (unshared : s.Unshared ⟨index, type⟩)
    (valid : Relation.ofNames index type = .ok ⟨index, type⟩) (checked : checkId id = .ok ()) (filled : id ≠ "") :
    ∃ d, ((indexDocument index type source (some id)).inMemory s).1 = .ok d := by
  have touched := sound_touch sound ⟨index, type⟩
  rw [index_under sound index type source filled]
  cases found : s.find? ⟨index, type⟩ id with
  | some e =>
      have updates : indexing index type source (some id) (some e) = updateDocument index type source id := rfl
      refine ⟨e.revised source, ?_⟩
      rw [updates, update_document_in_memory touched, if_neg filled, find_touched, found]
  | none =>
      have accepted : place index type (some id) = .ok ⟨index, type⟩ := place_iff.mpr ⟨by simpa using checked, valid⟩
      have untaken : ((s.touch ⟨index, type⟩).memory.table ⟨index, type⟩).hasId id = false := by
        rw [touch_memory]
        exact absent_untaken sound unshared found
      have creates : indexing index type source (some id) none = createDocument index type source (some id) := rfl
      refine ⟨⟨id, source, 1⟩, ?_⟩
      rw [creates, supplied_creation touched index type source filled, accepted]
      simp [untaken]

theorem index_keeps (sound : s.Sound) (filled : id ≠ "")
    (made : ((indexDocument index type source (some id)).inMemory s).1 = .ok d) : d = ⟨id, source, d.version⟩ := by
  have touched := sound_touch sound ⟨index, type⟩
  rw [index_under sound index type source filled] at made
  cases found : s.find? ⟨index, type⟩ id with
  | some e =>
      rw [found] at made
      obtain ⟨-, e, -, rfl, here⟩ := update_finds touched made
      exact congrArg (Document.mk · source _) here
  | none =>
      have creates : indexing index type source (some id) none = createDocument index type source (some id) := rfl
      rw [found, creates, supplied_creation touched index type source filled] at made
      cases accepted : place index type (some id) with
      | error e =>
          rw [accepted] at made
          cases made
      | ok q =>
          rw [accepted] at made
          dsimp only at made
          split at made
          · cases made
          · cases made
            rfl

theorem deletion_finds (sound : s.Sound) (gone : ((deleteDocument index type id).inMemory s).1 = .ok (some d)) :
    id ≠ "" ∧ s.find? ⟨index, type⟩ id = some d := by
  rw [delete_document_in_memory sound] at gone
  by_cases empty : id = ""
  · rw [if_pos empty] at gone
    cases gone
  · rw [if_neg empty] at gone
    exact ⟨empty, Except.ok.inj gone⟩

theorem deleted_absent (sound : s.Sound) (found : s.find? ⟨index, type⟩ id = some d) (filled : id ≠ "") :
    ((deleteDocument index type id).inMemory s).2.find? ⟨index, type⟩ id = none := by
  have typed := found_entry found
  have held : ((s.memory.table ⟨index, type⟩).find? id).isSome := by
    rw [← find_typed typed, found]
    rfl
  rw [delete_document_in_memory sound, if_neg filled, found]
  exact (find_put typed _ _).trans (Deed.find_same (.deleted id held) (sound.distinct _))

end Store

end SearchStore

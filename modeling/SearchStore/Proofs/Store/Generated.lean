import SearchStore.Proofs.Store.Runs

/-!
Ids that are generated. A number that was drawn before is not drawn again, and neither is one that a
document has. But a number that was given to a document, and is free since that document was
deleted, may be drawn: a generated id is a new one exactly when it is none of these.
-/

set_option autoImplicit false

namespace SearchStore.Store

open Store.State StoreM

variable {ops : List Operation} {r : Relation} {source : Json} {id : Option String}

theorem unnamed_creation (index type : String) (unnamed : id = none ∨ id = some "") :
    (Operation.step (.createDocument index type source id) (after ops)).1 =
      (Relation.ofNames index type).map fun r =>
        .document ⟨toString ((after ops).memory.table r).nextFree, source, 1⟩ := by
  have blank : id.filter (· ≠ "") = none := by
    rcases unnamed with rfl | rfl <;> rfl
  rw [Operation.step, Operation.perform, return_in_memory, create_document_in_memory (after_sound ops), blank, place]
  cases Relation.ofNames index type with
  | error e => rfl
  | ok r =>
      have held : ((after ops).provide r "").memory.table r = (after ops).memory.table r := provide_table
      rw [Except.map, ← held]
      rfl

-- A document was created under the pair with this id, which was given, and has been deleted since.
def Released (r : Relation) (id : String) (ops : List Operation) : Prop :=
  ∃ before source later q, deeds ops = before ++ (r, .created id source false) :: later ∧ q.table = r.table ∧
    (q, .deleted id) ∈ later

theorem deeds_in_split {before later : List (Relation × Deed)} {d : Deed} (split : deeds ops = before ++ (r, d) :: later) :
    ∃ first, deedsIn r.table ops = first ++ d :: (later.filter fun e => e.1.table = r.table).map (·.2) := by
  refine ⟨(before.filter fun e => e.1.table = r.table).map (·.2), ?_⟩
  rw [deedsIn, deedsWhere, split, List.filter_append, List.filter_cons_of_pos (by simp), List.map_append, List.map_cons]

theorem next_number_released {h first later : List Deed} {t : Table} {generated : Bool} (made : Made h t)
    (told : h = first ++ .created (toString t.nextFree) source generated :: later) :
    generated = false ∧ .deleted (toString t.nextFree) ∈ later := by
  constructor
  · by_contra drawn
    rw [Bool.not_eq_false] at drawn
    apply number_not_issued made
    rw [told, drawn, issued, List.filterMap_append, List.mem_append]
    exact Or.inr (List.mem_cons_self ..)
  · by_contra kept
    have alive := made_alive made told kept
    rw [← Table.has_id, t.next_free_least.2.1] at alive
    cases alive

theorem created_released (created : toString ((after ops).memory.table r).nextFree ∈ creations (deedsOn r ops)) :
    Released r (toString ((after ops).memory.table r).nextFree) ops := by
  obtain ⟨d, done, same⟩ := List.mem_filterMap.mp created
  obtain ⟨⟨q, e⟩, member, rfl⟩ := List.mem_map.mp done
  obtain ⟨inside, here⟩ := List.mem_filter.mp member
  obtain rfl : q = r := by simpa using here
  obtain ⟨before, later, split⟩ := List.append_of_mem inside
  obtain ⟨first, told⟩ := deeds_in_split split
  cases e with
  | updated => cases same
  | deleted => cases same
  | created id source generated =>
      obtain rfl : id = _ := Option.some.inj same
      obtain ⟨rfl, gone⟩ := next_number_released (table_made ops q) told
      obtain ⟨⟨p, e⟩, member, rfl⟩ := List.mem_map.mp gone
      obtain ⟨since, shared⟩ := List.mem_filter.mp member
      exact ⟨before, source, later, p, split, by simpa using shared, since⟩

theorem released_created {id : String} (released : Released r id ops) : id ∈ creations (deedsOn r ops) := by
  obtain ⟨before, source, later, q, split, -, -⟩ := released
  rw [creations, deedsOn, deedsWhere, split]
  simp [Deed.creation?]

/-- An id that is drawn is new to its table unless it was given to a document before that has been deleted since. -/
theorem generated_id_new_iff (ops : List Operation) (index type : String) (source : Json) (id : Option String)
    (unnamed : id = none ∨ id = some "") :
    match Relation.ofNames index type with
    | .error e => (Operation.step (.createDocument index type source id) (after ops)).1 = .error e
    | .ok r =>
        ∃ d, (Operation.step (.createDocument index type source id) (after ops)).1 = .ok (.document d) ∧ d.version = 1 ∧
          ((∀ earlier ∈ creations (deedsOn r ops), d.id ≠ earlier) ↔ ¬ Released r d.id ops) := by
  rw [unnamed_creation index type unnamed]
  cases Relation.ofNames index type with
  | error e => rfl
  | ok r =>
      refine ⟨_, rfl, rfl, ?_⟩
      constructor
      · intro new released
        exact new _ (released_created released) rfl
      · intro held earlier created same
        rw [← same] at created
        exact held (created_released created)

def numberedAndDeleted : List Operation :=
  [.createDocument "i" "t" .null (some "1"), .createDocument "i" "t" .null none, .deleteDocument "i" "t" "2"]

theorem deleted_number_not_generated : (some "" = none ∨ some "" = some "") ∧
    match Relation.ofNames "i" "t" with
    | .error e => (Operation.step (.createDocument "i" "t" .null (some "")) (after numberedAndDeleted)).1 = .error e
    | .ok r =>
        ∃ d, (Operation.step (.createDocument "i" "t" .null (some "")) (after numberedAndDeleted)).1 = .ok (.document d) ∧
          d.version = 1 ∧
            ((∀ earlier ∈ creations (deedsOn r numberedAndDeleted), d.id ≠ earlier) ↔ ¬ Released r d.id numberedAndDeleted) :=
  ⟨.inr rfl, generated_id_new_iff numberedAndDeleted "i" "t" .null (some "") (.inr rfl)⟩

def suppliedAndDeleted : List Operation := [.createDocument "i" "t" .null (some "1"), .deleteDocument "i" "t" "1"]

theorem deleted_id_generated_again : ¬ ∀ (ops : List Operation) (index type : String) (source : Json) (id : Option String)
    (d : Document), (id = none ∨ id = some "") →
      (Operation.step (.createDocument index type source id) (after ops)).1 = .ok (.document d) →
      d.version = 1 ∧ ∀ earlier ∈ creations (deedsOn ⟨index, type⟩ ops), d.id ≠ earlier := by
  intro never
  have answer : (Operation.step (.createDocument "i" "t" .null none) (after suppliedAndDeleted)).1 =
      .ok (.document ⟨"1", .null, 1⟩) := rfl
  have created : "1" ∈ creations (deedsOn ⟨"i", "t"⟩ suppliedAndDeleted) := by decide
  exact (never suppliedAndDeleted "i" "t" .null none ⟨"1", .null, 1⟩ (.inl rfl) answer).2 "1" created rfl

end SearchStore.Store

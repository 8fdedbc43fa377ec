import Mathlib.Data.List.DropRight
import SearchStore.Proofs.Store.Runs

/-!
What reading a document answers after any run, told from the deeds done to its id: nothing unless it
was created since it was last deleted, else what was last written, with a version that counts the
updates since the creation.
-/

set_option autoImplicit false

namespace SearchStore.Store

open Store.State StoreM

namespace Deed

def isCreation : Deed → Bool
  | created _ _ _ => true
  | _ => false

def isUpdate : Deed → Bool
  | updated _ _ => true
  | _ => false

def isDeletion : Deed → Bool
  | deleted _ => true
  | _ => false

def payload? : Deed → Option Json
  | created _ source _ => some source
  | updated _ source => some source
  | deleted _ => none

end Deed

variable {h : List Deed} {t : Table} {id : String} {answer : Option Document}

structure Recalled (h : List Deed) (id : String) (answer : Option Document) : Prop where
  absent : answer = none ↔ ∀ d ∈ h.rtakeWhile (!·.isDeletion), d.isCreation = false
  present : ∀ d, answer = some d → d.id = id ∧ (h.filterMap (·.payload?)).getLast? = some d.source ∧
    d.version = 1 + (h.rtakeWhile (!·.isCreation)).countP (·.isUpdate)

theorem recalled_next {d : Deed} (recalled : Recalled h d.id answer) : Recalled (h ++ [d]) d.id (d.next answer) := by
  cases d with
  | created id source generated =>
      constructor
      · rw [List.rtakeWhile_concat_pos _ _ _ (by simp [Deed.isDeletion])]
        simp [Deed.next, Deed.isCreation]
      · intro e now
        cases now
        rw [List.rtakeWhile_concat_neg _ _ _ (by simp [Deed.isCreation])]
        simp [Deed.payload?, Deed.id]
  | updated id source =>
      constructor
      · rw [List.rtakeWhile_concat_pos _ _ _ (by simp [Deed.isDeletion])]
        simp only [Deed.next, Option.map_eq_none_iff, recalled.absent, List.forall_mem_append, List.forall_mem_singleton]
        exact (and_iff_left rfl).symm
      · intro e now
        obtain ⟨before, found, rfl⟩ := Option.map_eq_some_iff.mp now
        obtain ⟨here, _, version⟩ := recalled.present before found
        rw [List.rtakeWhile_concat_pos _ _ _ (by simp [Deed.isCreation])]
        simp [Deed.payload?, Deed.isUpdate, Document.revised, here, version]
        omega
  | deleted id =>
      constructor
      · rw [List.rtakeWhile_concat_neg _ _ _ (by simp [Deed.isDeletion])]
        simp [Deed.next]
      · intro e now
        cases now

theorem recalled_unique {other : Option Document} (left : Recalled h id answer) (right : Recalled h id other) :
    answer = other := by
  cases other with
  | none => exact left.absent.mpr (right.absent.mp rfl)
  | some e =>
      cases answer with
      | none => exact (right.absent.mpr (left.absent.mp rfl)).symm
      | some d =>
          obtain ⟨id, source, version⟩ := d
          obtain ⟨rfl, written, revised⟩ := left.present _ rfl
          obtain ⟨same, writtenToo, revisedToo⟩ := right.present e rfl
          rw [written, Option.some.injEq] at writtenToo
          cases e
          simp_all

theorem made_recalled (made : Made h t) (id : String) : Recalled (h.filter (·.id = id)) id (t.find? id) := by
  induction made with
  | empty =>
      constructor
      · simp [Table.find?, Table.empty]
      · intro e now
        cases now
  | @next h t d made fits ih =>
      rw [List.filter_append]
      by_cases mine : d.id = id
      · subst mine
        rw [List.filter_cons_of_pos (by simp), List.filter_nil, Deed.find_same fits (made_distinct made)]
        exact recalled_next ih
      · rw [List.filter_cons_of_neg (by simpa using mine), List.filter_nil, List.append_nil, Deed.find_other (Ne.symm mine)]
        exact ih

-- The table of a pair is no other pair's among those that operations name.
def Alone (r : Relation) (ops : List Operation) : Prop :=
  ∀ op ∈ ops, ∀ q ∈ op.relation?, q.table = r.table → q = r

instance (r : Relation) (ops : List Operation) : Decidable (Alone r ops) :=
  inferInstanceAs (Decidable (∀ op ∈ ops, ∀ q ∈ op.relation?, q.table = r.table → q = r))

def history (r : Relation) (id : String) (ops : List Operation) : List Deed := (deedsOn r ops).filter (·.id = id)

variable {r : Relation} {ops : List Operation}

theorem deeds_in_alone (alone : Alone r ops) : deedsIn r.table ops = deedsOn r ops := by
  rw [deedsIn, deedsOn, deedsWhere, deedsWhere]
  refine congrArg (List.map _) (List.filter_congr ?_)
  rintro ⟨q, d⟩ done
  obtain ⟨op, member, named⟩ := deed_named done
  have same : q.table = r.table ↔ q = r := ⟨alone op member q named, congrArg Relation.table⟩
  simp only [same]

-- Without a type there is no table either: it would be that of another pair.
theorem find_alone (alone : Alone r ops) (id : String) :
    (after ops).find? r id = ((after ops).memory.table r).find? id := by
  refine find_unshared (after_sound ops) ?_ id
  intro q present same
  obtain ⟨op, member, named⟩ := typed_named present
  exact alone op member q named same

theorem history_recalled (alone : Alone r ops) (id : String) : Recalled (history r id ops) id ((after ops).find? r id) := by
  rw [find_alone alone, history, ← deeds_in_alone alone]
  exact made_recalled (table_made ops r) id

theorem history_kept {op : Operation} (other : ∀ d, op.deed? (op.step (after ops)).1 = some (r, d) → d.id ≠ id) :
    history r id (ops ++ [op]) = history r id ops := by
  rw [history, deedsOn, deeds_where_snoc]
  cases done : op.deed? (op.step (after ops)).1 with
  | none => rfl
  | some e =>
      obtain ⟨q, d⟩ := e
      by_cases here : q = r
      · subst here
        have apart := other d done
        simp [history, deedsOn, apart]
      · simp [history, deedsOn, here]

-- What the operations on a document answer after a run, and what leaves that answer as it is.
structure Follows (r : Relation) (id : String) (ops : List Operation) (answer : Option Document) : Prop where
  fetched : (Operation.step (.getDocument r.index r.type id) (after ops)).1 = .ok (.foundDocument answer)
  recalled : Recalled (history r id ops) id answer
  deleted : (Operation.step (.deleteDocument r.index r.type id) (after ops)).1 = .ok (.foundDocument answer)
  kept : ∀ op, Alone r [op] → (∀ d, op.deed? (op.step (after ops)).1 = some (r, d) → d.id ≠ id) →
    (Operation.step (.getDocument r.index r.type id) (op.step (after ops)).2).1 = .ok (.foundDocument answer)

/-- What is read of a document is told by what has been done under its pair and its id, whatever else a run did. -/
theorem document_follows_history (ops : List Operation) (index type id : String) (given : id ≠ "")
    (alone : Alone ⟨index, type⟩ ops) : ∃ answer, Follows ⟨index, type⟩ id ops answer := by
  have answered (run : List Operation) : (Operation.step (.getDocument index type id) (after run)).1 =
      .ok (.foundDocument ((after run).find? ⟨index, type⟩ id)) :=
    fetched_answer (q := ⟨index, type⟩) (after_sound run) given
  have recalled := history_recalled alone id
  refine ⟨(after ops).find? ⟨index, type⟩ id, ?_⟩
  constructor
  · exact answered ops
  · exact recalled
  · rw [Operation.step, Operation.perform, return_in_memory, delete_document_in_memory (after_sound ops), if_neg given]
    rfl
  · intro op apart other
    have later : Alone ⟨index, type⟩ (ops ++ [op]) := List.forall_mem_append.mpr ⟨alone, apart⟩
    have next := history_recalled later id
    rw [history_kept other] at next
    rw [← after_snoc, recalled_unique recalled next]
    exact answered (ops ++ [op])

def secondLife : List Operation :=
  [.createDocument "i" "t" .null (some "7"), .updateDocument "i" "t" (.bool true) "7",
    .createDocument "i" "t" .null (some "7"), .deleteDocument "i" "t" "7", .createDocument "i" "t" (.bool false) (some "7"),
    .createDocument "i" "t" .null none, .updateDocument "i" "t" (.bool true) "7", .updateDocument "i" "t" .null "8"]

theorem second_life_follows_history : "7" ≠ "" ∧ Alone ⟨"i", "t"⟩ secondLife ∧
    ∃ answer, Follows ⟨"i", "t"⟩ "7" secondLife answer :=
  ⟨by decide, by decide, document_follows_history secondLife "i" "t" "7" (by decide) (by decide)⟩

example : (after secondLife).find? ⟨"i", "t"⟩ "7" = some ⟨"7", .bool true, 2⟩ := by decide

end SearchStore.Store

import SearchStore.Store.Storage

/-!
Tables of documents. A table keeps its documents in the order they came and counts the ids it has
generated. Writing a document changes what is found under its own id and under no other.
-/

set_option autoImplicit false

namespace SearchStore

structure Table where
  -- The last number the id generator has drawn.
  drawn : Nat
  rows : List Document
deriving DecidableEq

namespace Table

def empty : Table := ⟨0, []⟩

def find? (t : Table) (id : String) : Option Document := t.rows.find? (·.id == id)

def hasId (t : Table) (id : String) : Bool := (t.find? id).isSome

-- The first number after those drawn whose text is no id of the table. One of the next numbers is
-- free, for there are more of them than rows.
def nextFree (t : Table) : Nat :=
  let free (k : Nat) : Bool := !t.hasId (toString (t.drawn + 1 + k))
  t.drawn + 1 + ((List.range t.rows.length).find? free).getD t.rows.length

def insert (t : Table) (d : Document) : Table := { t with rows := t.rows ++ [d] }

theorem find_insert_same {t : Table} {d : Document} (absent : t.find? d.id = none) :
    (t.insert d).find? d.id = some d := by
  simp only [find?] at absent
  simp [find?, insert, List.find?_append, absent]

theorem find_insert_other {t : Table} {d : Document} {id : String} (different : id ≠ d.id) :
    (t.insert d).find? id = t.find? id := by
  simp [find?, insert, List.find?_append, Ne.symm different]

def replace (t : Table) (d : Document) : Table :=
  { t with rows := t.rows.map fun e => if e.id = d.id then d else e }

theorem find_replace_same {t : Table} {d : Document} (present : t.hasId d.id = true) :
    (t.replace d).find? d.id = some d := by
  obtain ⟨drawn, rows⟩ := t
  simp only [hasId, find?, replace] at present ⊢
  induction rows with
  | nil => simp at present
  | cons e rest ih =>
      by_cases same : e.id = d.id
      · simp [same]
      · simp only [List.find?_cons, beq_eq_false_iff_ne.mpr same] at present
        simp [same, ih present]

theorem find_replace_other {t : Table} {d : Document} {id : String} (different : id ≠ d.id) :
    (t.replace d).find? id = t.find? id := by
  obtain ⟨drawn, rows⟩ := t
  simp only [find?, replace]
  induction rows with
  | nil => rfl
  | cons e rest ih =>
      by_cases same : e.id = d.id
      · simp [same, Ne.symm different, ih]
      · by_cases here : e.id = id
        · simp [here, different]
        · simp [same, here, ih]

def erase (t : Table) (id : String) : Table := { t with rows := t.rows.eraseP (·.id == id) }

theorem find_erase_other {t : Table} {id other : String} (different : other ≠ id) :
    (t.erase id).find? other = t.find? other := by
  obtain ⟨drawn, rows⟩ := t
  simp only [find?, erase]
  induction rows with
  | nil => rfl
  | cons e rest ih =>
      by_cases same : e.id = id
      · simp [same, Ne.symm different]
      · by_cases here : e.id = other
        · simp [here, different]
        · simp [same, here, ih]

end Table

end SearchStore

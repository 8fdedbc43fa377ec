import Mathlib.Data.Nat.Find
import SearchStore.Proofs.Store.Catalog
import SearchStore.Proofs.Store.Operation
import SearchStore.Proofs.Store.Rows

/-!
A store as one would keep it on paper: a book for each index and in it a sheet for each type, with
the options, the last number drawn and the documents in the order they came. Nothing is noted on the
side, and no sheet has a name other than its pair.
-/

set_option autoImplicit false

namespace SearchStore.Store

structure Sheet where
  options : String
  drawn : Nat
  rows : List Document

structure Book where
  options : String
  sheets : Keyed Sheet

abbrev Ledger := Keyed Book

namespace Sheet

def blank (options : String) : Sheet := ⟨options, 0, []⟩

def ids (sheet : Sheet) : List String := sheet.rows.map (·.id)

theorem exists_number (sheet : Sheet) : ∃ n, sheet.drawn < n ∧ toString n ∉ sheet.ids := by
  obtain ⟨after, free, _⟩ := (Table.mk sheet.drawn sheet.rows).next_free_least
  refine ⟨_, after, fun taken => ?_⟩
  rw [Table.has_id.mpr taken] at free
  cases free

def number (sheet : Sheet) : Nat := Nat.find sheet.exists_number

theorem number_of_table (sheet : Sheet) : (Table.mk sheet.drawn sheet.rows).nextFree = sheet.number := by
  obtain ⟨after, free, least⟩ := (Table.mk sheet.drawn sheet.rows).next_free_least
  symm
  rw [number, Nat.find_eq_iff]
  refine ⟨⟨after, fun taken => ?_⟩, ?_⟩
  · rw [Table.has_id.mpr taken] at free
    cases free
  · rintro n less ⟨later, untaken⟩
    exact untaken (Table.has_id.mp (least n later less))

def add (sheet : Sheet) (source : Json) : Option String → Except Failure Document × Sheet
  | some id =>
      let d : Document := ⟨id, source, 1⟩
      if id ∈ sheet.ids then (.error (.illegalOperation (.documentExists id)), sheet)
      else (.ok d, { sheet with rows := sheet.rows ++ [d] })
  | none =>
      let n := sheet.number
      let d : Document := ⟨toString n, source, 1⟩
      (.ok d, { sheet with drawn := n, rows := sheet.rows ++ [d] })

theorem add_options (sheet : Sheet) (source : Json) (id : Option String) :
    (sheet.add source id).2.options = sheet.options := by
  cases id with
  | none => rfl
  | some id =>
      rw [add]
      split <;> rfl

theorem add_identified {sheet : Sheet} (identified : "" ∉ sheet.ids) (source : Json) {id : Option String}
    (given : id ≠ some "") : "" ∉ (sheet.add source id).2.ids := by
  cases id with
  | some id =>
      have filled : "" ≠ id := fun blank => given (congrArg some blank.symm)
      by_cases taken : id ∈ sheet.ids
      · rw [add, if_pos taken]
        exact identified
      · rw [add, if_neg taken]
        simpa [ids, filled] using identified
  | none =>
      have filled : "" ≠ toString sheet.number := Nat.repr_ne_empty.symm
      simpa [add, ids, filled] using identified

end Sheet

namespace Ledger

def empty : Ledger := []

def sheet? (l : Ledger) (r : Relation) : Option Sheet :=
  (Keyed.find? l r.index).bind fun book => Keyed.find? book.sheets r.type

def book (l : Ledger) (name : String) : Book := (Keyed.find? l name).getD ⟨"", []⟩

def putSheet (l : Ledger) (r : Relation) (sheet : Sheet) : Ledger :=
  Keyed.insert l r.index ⟨(book l r.index).options, Keyed.insert (book l r.index).sheets r.type sheet⟩

def rows (l : Ledger) (r : Relation) : List Document := ((sheet? l r).map (·.rows)).getD []

def find? (l : Ledger) (r : Relation) (id : String) : Option Document := (rows l r).find? (·.id == id)

def rewrite (l : Ledger) (r : Relation) (change : List Document → List Document) : Ledger :=
  match sheet? l r with
  | some sheet => putSheet l r { sheet with rows := change sheet.rows }
  | none => l

def step (op : Operation) (l : Ledger) : Result × Ledger :=
  match op with
  | .createCatalog => (.ok .done, l)
  | .createIndex name options =>
      match checkIndexName name, Keyed.find? l name with
      | .error e, _ => (.error e, l)
      | .ok _, some _ => (.error (.illegalOperation .indexExists), l)
      | .ok _, none => (.ok (.index ⟨name, options⟩), Keyed.insert l name ⟨options, []⟩)
  | .getIndex name => (.ok (.foundIndex ((Keyed.find? l name).map fun book => ⟨name, book.options⟩)), l)
  | .findIndices pattern => (.ok (.names ((Keyed.keys l).filter (Pattern.ofWildcard pattern).accepts)), l)
  | .createType index name options =>
      match Relation.ofNames index name, sheet? l ⟨index, name⟩ with
      | .error e, _ => (.error e, l)
      | .ok _, some _ => (.error (.illegalOperation .typeExists), l)
      | .ok r, none => (.ok (.type (r.entry options)), putSheet l r (.blank options))
  | .getType index name =>
      (.ok (.foundType ((sheet? l ⟨index, name⟩).map fun sheet => Relation.entry ⟨index, name⟩ sheet.options)), l)
  | .replaceTypeOptions index name options =>
      match sheet? l ⟨index, name⟩ with
      | none => (.error (.illegalOperation .noSuchType), l)
      | some sheet =>
          (.ok (.type (Relation.entry ⟨index, name⟩ options)), putSheet l ⟨index, name⟩ { sheet with options })
  | .findTypes index pattern =>
      (.ok (.names ((Keyed.keys (book l index).sheets).filter (Pattern.ofWildcard pattern).accepts)), l)
  | .createDocument index type source id =>
      match place index type (id.filter (· ≠ "")) with
      | .error e => (.error e, l)
      | .ok r =>
          let (result, sheet) := ((sheet? l r).getD (.blank "")).add source (id.filter (· ≠ ""))
          (result.map .document, putSheet l r sheet)
  | .getDocument index type id => (.ok (.foundDocument (find? l ⟨index, type⟩ id)), l)
  | .documentExists index type id => (.ok (.flag (find? l ⟨index, type⟩ id).isSome), l)
  | .updateDocument index type source id =>
      match find? l ⟨index, type⟩ id with
      | none => (.error (.illegalOperation (.noSuchDocument id)), l)
      | some d =>
          (.ok (.document (d.revised source)), rewrite l ⟨index, type⟩ fun rows =>
            rows.map fun e => if e.id = id then e.revised source else e)
  | .deleteDocument index type id =>
      match find? l ⟨index, type⟩ id with
      | none => (.ok (.foundDocument none), l)
      | some d => (.ok (.foundDocument (some d)), rewrite l ⟨index, type⟩ fun rows => rows.filter (·.id ≠ id))
  | .select index type predicate =>
      (.ok (.documents ((rows l ⟨index, type⟩).filter fun d => predicate.matchesSource d.source)), l)

variable {l : Ledger} {q r : Relation} {sheet : Sheet}

theorem book_put (l : Ledger) (r : Relation) (sheet : Sheet) (name : String) :
    Keyed.find? (putSheet l r sheet) name =
      if name = r.index then some ⟨(book l r.index).options, Keyed.insert (book l r.index).sheets r.type sheet⟩
      else Keyed.find? l name := by
  by_cases same : name = r.index
  · rw [if_pos same, same]
    exact Keyed.find_insert_same l r.index _
  · rw [if_neg same]
    exact Keyed.find_insert_other l r.index name _ same

theorem sheet_of_book (l : Ledger) (r : Relation) : sheet? l r = Keyed.find? (book l r.index).sheets r.type := by
  rw [sheet?, book]
  cases Keyed.find? l r.index <;> rfl

theorem book_found (present : sheet? l r = some sheet) : Keyed.find? l r.index = some (book l r.index) := by
  rw [sheet?] at present
  rw [book]
  cases found : Keyed.find? l r.index with
  | some book => rfl
  | none =>
      rw [found] at present
      cases present

theorem sheet_put_same (l : Ledger) (r : Relation) (sheet : Sheet) : sheet? (putSheet l r sheet) r = some sheet := by
  rw [sheet?, book_put, if_pos rfl]
  exact Keyed.find_insert_same _ r.type sheet

theorem sheet_put_other (different : q ≠ r) : sheet? (putSheet l r sheet) q = sheet? l q := by
  rw [sheet?, book_put]
  by_cases together : q.index = r.index
  · have apart : q.type ≠ r.type := by
      intro same
      apply different
      cases q
      cases r
      simp only [Relation.mk.injEq]
      exact ⟨together, same⟩
    rw [if_pos together, sheet_of_book l q, together]
    exact Keyed.find_insert_other _ r.type q.type sheet apart
  · rw [if_neg together]
    rfl

theorem sheet_add {name options : String} (absent : Keyed.find? l name = none) :
    sheet? (Keyed.insert l name ⟨options, []⟩) r = sheet? l r := by
  by_cases same : r.index = name
  · rw [sheet?, sheet?, same, Keyed.find_insert_same, absent]
    rfl
  · rw [sheet?, sheet?, Keyed.find_insert_other _ _ _ _ same]

structure InOrder (l : Ledger) : Prop where
  books : Keyed.Ordered l
  sheets : ∀ name, Keyed.Ordered (book l name).sheets

theorem empty_in_order : InOrder .empty where
  books := .nil
  sheets _ := .nil

theorem put_in_order (ordered : InOrder l) : InOrder (putSheet l r sheet) where
  books := Keyed.insert_ordered _ _ ordered.books
  sheets name := by
    rw [book, book_put]
    by_cases same : name = r.index
    · rw [if_pos same]
      exact Keyed.insert_ordered _ _ (ordered.sheets r.index)
    · rw [if_neg same]
      exact ordered.sheets name

theorem add_in_order (name options : String) (ordered : InOrder l) : InOrder (Keyed.insert l name ⟨options, []⟩) where
  books := Keyed.insert_ordered _ _ ordered.books
  sheets key := by
    by_cases same : key = name
    · rw [book, same, Keyed.find_insert_same]
      exact .nil
    · rw [book, Keyed.find_insert_other _ _ _ _ same]
      exact ordered.sheets key

end Ledger

end SearchStore.Store

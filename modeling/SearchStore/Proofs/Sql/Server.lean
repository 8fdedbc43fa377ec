import Mathlib.Data.List.Infix
import SearchStore.Keyed
import SearchStore.Proofs.Store.Operation
import SearchStore.Sql.Service

/-!
A database server as the statements of the store see it: named tables and sequences, unique keys,
columns of bounded length, and transactions that are undone as a whole. What the meaning of the
statements leaves open is the order in which rows are found and the truth of text conditions. Texts and
documents are kept as they are given, and keys have no names of their own.
-/

set_option autoImplicit false

namespace SearchStore.Sql

inductive Object where
  | indices (rows : List IndexEntry)
  | types (rows : List TypeEntry)
  | documents (generator : String) (rows : List Document)
  | sequence (last : Nat)

structure Server where
  objects : Keyed Object
  -- The objects as they were when the transaction began.
  saved : Keyed Object
  clock : Nat

-- What a server is free to do: rows come in any order, and text conditions are true or not.
structure Habits where
  arrange : Nat → List Document → List Document
  arranged : ∀ clock rows, (arrange clock rows).Perm rows
  truth : TextCondition → Document → Bool

def afterFirst (meets : Char → Bool) (later : List Char → Bool) : List Char → Bool
  | [] => false
  | c :: rest => meets c && later rest

def likes (escaped : Bool) : List Char → List Char → Bool
  | [], text => !escaped && text.isEmpty
  | c :: rest, text =>
      if escaped then afterFirst (· == c) (likes false rest) text
      else if c = '%' then text.tails.any (likes false rest)
      else if c = '_' then afterFirst (fun _ => true) (likes false rest) text
      else if c = '\\' then likes true rest text
      else afterFirst (· == c) (likes false rest) text

def orderByName (names : List String) : List String := names.mergeSort fun a b => !Text.before b a

namespace Server

def empty : Server := ⟨[], [], 0⟩

def object? (v : Server) (name : String) : Option Object := Keyed.find? v.objects name

def put (v : Server) (name : String) (o : Object) : Server := { v with objects := Keyed.insert v.objects name o }

variable {ρ : Type}

abbrev Outcome (ρ : Type) : Type := Except String (List ρ) × Server

def missing (v : Server) (name : String) : Outcome ρ := (.error ("relation " ++ quote name ++ " does not exist"), v)

def tooLong (v : Server) (limit : Nat) : Outcome ρ :=
  (.error ("value too long for type character varying(" ++ toString limit ++ ")"), v)

def onIndices (v : Server) (use : List IndexEntry → Outcome ρ) : Outcome ρ :=
  match v.object? indexTable with
  | some (.indices rows) => use rows
  | _ => v.missing indexTable

def onTypes (v : Server) (use : List TypeEntry → Outcome ρ) : Outcome ρ :=
  match v.object? typeTable with
  | some (.types rows) => use rows
  | _ => v.missing typeTable

def onDocuments (v : Server) (r : Relation) (use : String → List Document → Outcome ρ) : Outcome ρ :=
  match v.object? r.table with
  | some (.documents generator rows) => use generator rows
  | _ => v.missing r.table

def ensure (v : Server) (name : String) (o : Object) : Outcome ρ :=
  match v.object? name with
  | some _ => (.ok [], v)
  | none => (.ok [], v.put name o)

def longestName : Nat := 255

def longestId : Nat := 128

def ofType (index name : String) (t : TypeEntry) : Bool := t.index == index && t.name == name

def insertIndex (v : Server) (name options : String) : Outcome IndexEntry :=
  v.onIndices fun rows =>
    if longestName < name.length then v.tooLong longestName
    else if rows.any (·.name == name) then (.ok [], v)
    else (.ok [⟨name, options⟩], v.put indexTable (.indices (rows ++ [⟨name, options⟩])))

def insertType (v : Server) (r : Relation) (options : String) : Outcome TypeEntry :=
  v.onTypes fun rows => v.onIndices fun indices =>
    let entry : TypeEntry := ⟨r.type, r.index, options⟩
    if longestName < r.type.length ∨ longestName < r.index.length then v.tooLong longestName
    else if rows.any (ofType r.index r.type) then (.ok [], v)
    else if indices.any (·.name == r.index) then (.ok [entry], v.put typeTable (.types (rows ++ [entry])))
    else (.error "insert violates foreign key constraint", v)

def updateType (v : Server) (index name options : String) : Outcome TypeEntry :=
  v.onTypes fun rows =>
    (.ok ((rows.filter (ofType index name)).map fun t => { t with options }),
      v.put typeTable (.types (rows.map fun t => if ofType index name t then { t with options } else t)))

def createTable (v : Server) (r : Relation) : Outcome Unit :=
  match v.object? r.sequence with
  | some (.sequence _) => v.ensure r.table (.documents r.sequence [])
  | _ => v.missing r.sequence

def insertDocument (v : Server) (r : Relation) (id : String) (source : Json) : Outcome Document :=
  v.onDocuments r fun generator rows =>
    if longestId < id.length then v.tooLong longestId
    else if rows.any (·.id == id) then (.ok [], v)
    else (.ok [⟨id, source, 1⟩], v.put r.table (.documents generator (rows ++ [⟨id, source, 1⟩])))

def insertGenerated (v : Server) (r : Relation) (source : Json) : Outcome Document :=
  v.onDocuments r fun generator rows =>
    match v.object? generator with
    | some (.sequence last) =>
        let id := toString (last + 1)
        let drawn := v.put generator (.sequence (last + 1))
        if rows.any (·.id == id) then (.ok [], drawn)
        else (.ok [⟨id, source, 1⟩], drawn.put r.table (.documents generator (rows ++ [⟨id, source, 1⟩])))
    | _ => v.missing generator

def greatestInteger : Int := 0x7FFFFFFF

def updateDocument (v : Server) (r : Relation) (id : String) (source : Json) : Outcome Document :=
  v.onDocuments r fun generator rows =>
    let found := rows.filter (·.id == id)
    if found.any (greatestInteger ≤ ·.version) then (.error "integer out of range", v)
    else
      (.ok (found.map (·.revised source)),
        v.put r.table (.documents generator (rows.map fun d => if d.id = id then d.revised source else d)))

def deleteDocument (v : Server) (r : Relation) (id : String) : Outcome Document :=
  v.onDocuments r fun generator rows =>
    (.ok (rows.filter (·.id == id)), v.put r.table (.documents generator (rows.filter (·.id != id))))

def run (habits : Habits) (v : Server) : (s : Statement) → Outcome s.Row
  | .createIndexTable => v.ensure indexTable (.indices [])
  | .createTypeTable => v.onIndices fun _ => v.ensure typeTable (.types [])
  | .insertIndex name options => v.insertIndex name options
  | .selectIndex name => v.onIndices fun rows => (.ok (rows.filter (·.name == name)), v)
  | .listIndices pattern => v.onIndices fun rows =>
      (.ok (orderByName ((rows.map (·.name)).filter fun n => likes false pattern.text n.toList)), v)
  | .insertType r options => v.insertType r options
  | .createSequence r => v.ensure r.sequence (.sequence 0)
  | .createTable r => v.createTable r
  | .selectType index name => v.onTypes fun rows => (.ok (rows.filter (ofType index name)), v)
  | .updateType index name options => v.updateType index name options
  | .listTypes index pattern => v.onTypes fun rows =>
      (.ok (orderByName (((rows.filter (·.index == index)).map (·.name)).filter fun n => likes false pattern.text n.toList)), v)
  | .insertDocument r id source => v.insertDocument r id source
  | .insertGenerated r source => v.insertGenerated r source
  | .selectDocument r id => v.onDocuments r fun _ rows => (.ok (rows.filter (·.id == id)), v)
  | .updateDocument r id source => v.updateDocument r id source
  | .deleteDocument r id => v.deleteDocument r id
  | .selectDocuments r p => v.onDocuments r fun _ rows =>
      (.ok (habits.arrange v.clock (rows.filter fun d => p.holds (habits.truth · d))), v)

def tick (v : Server) : Server := { v with clock := v.clock + 1 }

def opened (v : Server) : Server := { v.tick with saved := v.objects }

def undone (v : Server) : Server := { v.tick with objects := v.saved }

def answer (habits : Habits) : (c : Command) → StateM Server (Database.Reply c)
  | .begin => fun v => (.ok (), v.opened)
  | .commit => fun v => (.ok (), v.tick)
  | .rollback => fun v => (.ok (), v.undone)
  | .run s => fun v => v.tick.run habits s

def serve (habits : Habits) (r : Storage.Request) : StateM Server (Storage.Reply r) := (Sql.answer r).run (answer habits)

end Server

end SearchStore.Sql

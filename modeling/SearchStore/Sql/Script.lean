import SearchStore.Json.Decode
import SearchStore.Sql.Service

/-!
A database server that follows a script and records the commands it gets. Each statement takes the
next reply; when none is left it returns no rows. The commands that open and close transactions take
the next outcome; when none is left they succeed.
-/

set_option autoImplicit false

namespace SearchStore.Sql

inductive Reply where
  | rows (values : List (List Json))
  | failure (text : String)
deriving DecidableEq

def greatestVersion : Nat := 0x7FFFFFFF

def version? (v : Json) : Option Int := do
  let i ← (Json.Draft.ofValue v).integer?
  if -(greatestVersion : Int) - 1 ≤ i ∧ i ≤ greatestVersion then some i else none

def indexRow? : List Json → Option IndexEntry
  | [.string name, .string options] => some ⟨name, options⟩
  | _ => none

def typeRow? : List Json → Option TypeEntry
  | [.string name, .string index, .string options] => some ⟨name, index, options⟩
  | _ => none

def nameRow? : List Json → Option String
  | [.string name] => some name
  | _ => none

def documentRow? : List Json → Option Document
  | [.string id, source, version] => do some ⟨id, source, ← version? version⟩
  | _ => none

namespace Statement

def row? : (s : Statement) → List Json → Option s.Row
  | .createIndexTable, _ => some ()
  | .createTypeTable, _ => some ()
  | .insertIndex _ _, values => indexRow? values
  | .selectIndex _, values => indexRow? values
  | .listIndices _, values => nameRow? values
  | .insertType _ _, values => typeRow? values
  | .createSequence _, _ => some ()
  | .createTable _, _ => some ()
  | .selectType _ _, values => typeRow? values
  | .updateType _ _ _, values => typeRow? values
  | .listTypes _ _, values => nameRow? values
  | .insertDocument _ _ _, values => documentRow? values
  | .insertGenerated _ _, values => documentRow? values
  | .selectDocument _ _, values => documentRow? values
  | .updateDocument _ _ _, values => documentRow? values
  | .deleteDocument _ _, values => documentRow? values
  | .selectDocuments _ _, values => documentRow? values

def read (s : Statement) : Reply → Except String (List s.Row)
  | .failure text => .error text
  | .rows values =>
      match values.mapM s.row? with
      | some rows => .ok rows
      | none => .error "unexpected columns"

end Statement

structure ScriptedServer where
  replies : List Reply
  outcomes : List (Except String Unit)
  log : List Command

namespace ScriptedServer

def start (replies : List Reply) (outcomes : List (Except String Unit) := []) : ScriptedServer :=
  ⟨replies, outcomes, []⟩

def nextOutcome (c : Command) : StateM ScriptedServer (Except String Unit) := fun s =>
  (s.outcomes.head?.getD (.ok ()), { s with outcomes := s.outcomes.tail, log := s.log ++ [c] })

def nextReply (statement : Statement) : StateM ScriptedServer (Except String (List statement.Row)) :=
  fun s =>
    (statement.read (s.replies.head?.getD (.rows [])),
      { s with replies := s.replies.tail, log := s.log ++ [.run statement] })

def answer : (c : Database.Request) → StateM ScriptedServer (Database.Reply c)
  | .begin => nextOutcome .begin
  | .commit => nextOutcome .commit
  | .rollback => nextOutcome .rollback
  | .run statement => nextReply statement

def storageAnswer (r : Storage.Request) : StateM ScriptedServer (Storage.Reply r) :=
  (Sql.answer r).run answer

end ScriptedServer

end SearchStore.Sql

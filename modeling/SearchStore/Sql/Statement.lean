import SearchStore.Json.Printer
import SearchStore.Sql.Condition
import SearchStore.Store.Storage

/-!
The statements a relational storage is served with: what they ask, their text, the parameters bound
to it, and the rows they return. Every relation is a table of ids, documents and versions with a
sequence for generated ids; indices and types are listed in two catalog tables.
-/

set_option autoImplicit false

namespace SearchStore.Sql

inductive Statement where
  | createIndexTable
  | createTypeTable
  | insertIndex (name options : String)
  | selectIndex (name : String)
  | listIndices (pattern : Pattern)
  | insertType (relation : Relation) (options : String)
  | createSequence (relation : Relation)
  | createTable (relation : Relation)
  | selectType (index name : String)
  | updateType (index name options : String)
  | listTypes (index : String) (pattern : Pattern)
  | insertDocument (relation : Relation) (id : String) (source : Json)
  -- The id is drawn from the sequence of the relation.
  | insertGenerated (relation : Relation) (source : Json)
  | selectDocument (relation : Relation) (id : String)
  | updateDocument (relation : Relation) (id : String) (source : Json)
  | deleteDocument (relation : Relation) (id : String)
  | selectDocuments (relation : Relation) (predicate : Predicate)

inductive Parameter where
  | text (s : String)
  | json (v : Json)
deriving DecidableEq

def Parameter.shown : Parameter → String
  | .text s => s
  | .json v => v.text

def indexTable : String := "pgelastic_indices"

def typeTable : String := "pgelastic_types"

def quoteChar (c : Char) : List Char := if c = '"' then ['"', '"'] else [c]

def quote (name : String) : String :=
  String.ofList ('"' :: name.toList.flatMap quoteChar ++ ['"'])

def quotedTable (r : Relation) : String := quote r.table

def quotedSequence (r : Relation) : String := quote r.sequence

def returning : String := " RETURNING id, document, version"

namespace Statement

abbrev Row : Statement → Type
  | .createIndexTable => Unit
  | .createTypeTable => Unit
  | .insertIndex _ _ => IndexEntry
  | .selectIndex _ => IndexEntry
  | .listIndices _ => String
  | .insertType _ _ => TypeEntry
  | .createSequence _ => Unit
  | .createTable _ => Unit
  | .selectType _ _ => TypeEntry
  | .updateType _ _ _ => TypeEntry
  | .listTypes _ _ => String
  | .insertDocument _ _ _ => Document
  | .insertGenerated _ _ => Document
  | .selectDocument _ _ => Document
  | .updateDocument _ _ _ => Document
  | .deleteDocument _ _ => Document
  | .selectDocuments _ _ => Document

def text : Statement → String
  | .createIndexTable =>
      "CREATE TABLE IF NOT EXISTS " ++ indexTable
        ++ " (name VARCHAR(255) PRIMARY KEY, options TEXT NOT NULL DEFAULT '')"
  | .createTypeTable =>
      "CREATE TABLE IF NOT EXISTS " ++ typeTable
        ++ " (name VARCHAR(255) NOT NULL, index_name VARCHAR(255) NOT NULL REFERENCES "
        ++ indexTable
        ++ "(name), options TEXT NOT NULL DEFAULT '', PRIMARY KEY (name, index_name))"
  | .insertIndex _ _ =>
      "INSERT INTO " ++ indexTable
        ++ " (name, options) VALUES ($1, $2) ON CONFLICT (name) DO NOTHING RETURNING name, options"
  | .selectIndex _ => "SELECT name, options FROM " ++ indexTable ++ " WHERE name = $1"
  | .listIndices _ =>
      "SELECT name FROM " ++ indexTable ++ " WHERE name LIKE $1 ESCAPE '\\' ORDER BY name"
  | .insertType _ _ =>
      "INSERT INTO " ++ typeTable
        ++ " (name, index_name, options) VALUES ($1, $2, $3) ON CONFLICT (name, index_name)"
        ++ " DO NOTHING RETURNING name, index_name, options"
  | .createSequence r => "CREATE SEQUENCE IF NOT EXISTS " ++ quotedSequence r
  | .createTable r =>
      "CREATE TABLE IF NOT EXISTS " ++ quotedTable r
        ++ " (id VARCHAR(128) PRIMARY KEY DEFAULT nextval('" ++ quotedSequence r
        ++ "')::text, document JSONB NOT NULL, version INTEGER NOT NULL DEFAULT 1)"
  | .selectType _ _ =>
      "SELECT name, index_name, options FROM " ++ typeTable
        ++ " WHERE index_name = $1 AND name = $2"
  | .updateType _ _ _ =>
      "UPDATE " ++ typeTable
        ++ " SET options = $3 WHERE index_name = $1 AND name = $2"
        ++ " RETURNING name, index_name, options"
  | .listTypes _ _ =>
      "SELECT name FROM " ++ typeTable
        ++ " WHERE index_name = $1 AND name LIKE $2 ESCAPE '\\' ORDER BY name"
  | .insertDocument r _ _ =>
      "INSERT INTO " ++ quotedTable r
        ++ " (id, document) VALUES ($1, $2) ON CONFLICT (id) DO NOTHING" ++ returning
  | .insertGenerated r _ =>
      "INSERT INTO " ++ quotedTable r ++ " (document) VALUES ($1) ON CONFLICT (id) DO NOTHING"
        ++ returning
  | .selectDocument r _ => "SELECT id, document, version FROM " ++ quotedTable r ++ " WHERE id = $1"
  | .updateDocument r _ _ =>
      "UPDATE " ++ quotedTable r ++ " SET document = $2, version = version + 1 WHERE id = $1"
        ++ returning
  | .deleteDocument r _ => "DELETE FROM " ++ quotedTable r ++ " WHERE id = $1" ++ returning
  | .selectDocuments r p =>
      "SELECT id, document, version FROM " ++ quotedTable r ++ " WHERE "
        ++ Piece.textFrom 1 (Condition.ofPredicate p)

def parameters : Statement → List Parameter
  | .createIndexTable => []
  | .createTypeTable => []
  | .insertIndex name options => [.text name, .text options]
  | .selectIndex name => [.text name]
  | .listIndices pattern => [.text pattern.like]
  | .insertType r options => [.text r.type, .text r.index, .text options]
  | .createSequence _ => []
  | .createTable _ => []
  | .selectType index name => [.text index, .text name]
  | .updateType index name options => [.text index, .text name, .text options]
  | .listTypes index pattern => [.text index, .text pattern.like]
  | .insertDocument _ id source => [.text id, .json source]
  | .insertGenerated _ source => [.json source]
  | .selectDocument _ id => [.text id]
  | .updateDocument _ id source => [.text id, .json source]
  | .deleteDocument _ id => [.text id]
  | .selectDocuments _ p => (Piece.values (Condition.ofPredicate p)).map .text

end Statement

inductive Command where
  | begin
  | commit
  | rollback
  | run (s : Statement)

namespace Command

def text : Command → String
  | .begin => "BEGIN"
  | .commit => "COMMIT"
  | .rollback => "ROLLBACK"
  | .run s => s.text

def parameters : Command → List Parameter
  | .run s => s.parameters
  | _ => []

end Command

abbrev Command.Answer : Command → Type
  | .begin | .commit | .rollback => Unit
  | .run s => List s.Row

-- Database servers. Any command may fail, with a text.
abbrev Database : Interface where
  Request := Command
  Reply c := Except String c.Answer

end SearchStore.Sql

import SearchStore.Failure

/-!
Names of indices and types, and the relation that holds the documents of a pair. A name consists of
ASCII letters, digits, hyphens and underscores. The relation of an index and a type is a table named
for both, with a sequence that generates ids; both names fit the limit on identifiers.
-/

set_option autoImplicit false

namespace SearchStore

def isNameChar (c : Char) : Bool :=
  ('a'.toNat ≤ c.toNat && c.toNat ≤ 'z'.toNat) || ('A'.toNat ≤ c.toNat && c.toNat ≤ 'Z'.toNat)
    || ('0'.toNat ≤ c.toNat && c.toNat ≤ '9'.toNat) || c == '-' || c == '_'

def checkName (noun name : String) : Except Failure Unit :=
  if name.toList.isEmpty then .error (.malformedInput (.emptyName noun))
  else if name.toList.all isNameChar then .ok ()
  else .error (.malformedInput (.nameCharacters noun name))

def checkIndexName (name : String) : Except Failure Unit := do
  checkName "index" name
  if name.toList.head? = some '_' then .error (.malformedInput (.leadingUnderscore name))
  else .ok ()

def checkId (id : String) : Except Failure Unit :=
  if id.utf8ByteSize ≤ maxIdLength then .ok () else .error (.malformedInput .idTooLong)

structure Relation where
  index : String
  type : String
deriving DecidableEq, Repr

namespace Relation

def maxIdentifier : Nat := 63

def sequenceSuffix : String := "_id_seq"

def table (r : Relation) : String := r.index ++ "_" ++ r.type

def sequence (r : Relation) : String := r.table ++ sequenceSuffix

def ofNames (index type : String) : Except Failure Relation := do
  checkIndexName index
  checkName "type" type
  let r : Relation := ⟨index, type⟩
  if r.sequence.utf8ByteSize ≤ maxIdentifier then .ok r
  else .error (.malformedInput (.relationTooLong r.table))

end Relation

end SearchStore

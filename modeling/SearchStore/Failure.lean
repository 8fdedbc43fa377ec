import SearchStore.Text.Utf8

/-!
Why a request is refused. Each kind of failure has its causes, a name and an HTTP status; the
wording of every cause is in `Failure.reason`. Causes called `reported` carry the words of a
storage.
-/

set_option autoImplicit false

namespace SearchStore

inductive ActionField where
  | index
  | type
  | id
deriving DecidableEq, Repr

inductive ActionKind where
  | index
  | create
  | update
  | delete
deriving DecidableEq, Repr

def ActionKind.name : ActionKind → String
  | .index => "index"
  | .create => "create"
  | .update => "update"
  | .delete => "delete"

def ActionField.name : ActionField → String
  | .index => "_index"
  | .type => "_type"
  | .id => "_id"

-- Input that cannot be made sense of. Lines are counted from one.
inductive Malformed where
  | emptyName (noun : String)
  | nameCharacters (noun name : String)
  | leadingUnderscore (name : String)
  | relationTooLong (table : String)
  | idTooLong
  | json
  | query
  | noMatchField
  | bulkAction (line : Nat)
  | bulkSource (line : Nat)
  | bulkNoSource (kind : ActionKind) (line : Nat)
  | bulkNoField (kind : ActionKind) (field : ActionField)
  | emptyDocument
  | notUtf8 (fault : Text.Utf8Fault)
  | reported (text : String)
deriving DecidableEq, Repr

inductive QueryFault where
  | noFreeId (table : String)
  | database (text : String)
  | reported (text : String)
deriving DecidableEq, Repr

inductive Illegal where
  | indexExists
  | typeExists
  | noSuchType
  | documentExists (id : String)
  | noSuchDocument (id : String)
  | nothingToSearch
  | reported (text : String)
deriving DecidableEq, Repr

inductive Inconsistency where
  | typeUnreadable (index type : String)
  | nothingInserted
  | reported (text : String)
deriving DecidableEq, Repr

inductive Failure where
  | malformedInput (cause : Malformed)
  | queryFailure (cause : QueryFault)
  | illegalOperation (cause : Illegal)
  | transport (text : String)
  | internal (cause : Inconsistency)
deriving DecidableEq, Repr

def maxIdLength : Nat := 128

def jsonReason : String := "unexpected JSON"

def Malformed.reason : Malformed → String
  | .emptyName noun => noun ++ " name cannot be empty"
  | .nameCharacters noun name =>
      noun ++ " name '" ++ name
        ++ "' contains invalid characters (use alphanumeric, hyphens, underscores)"
  | .leadingUnderscore name => "Index name '" ++ name ++ "' must not start with '_'"
  | .relationTooLong table => "Relation name '" ++ table ++ "' is too long"
  | .idTooLong => "Document id is longer than " ++ toString maxIdLength ++ " bytes"
  | .json => jsonReason
  | .query => "Failed to parse query: " ++ jsonReason
  | .noMatchField => "Match query requires at least one field"
  | .bulkAction line => "Invalid bulk action on line " ++ toString line ++ ": " ++ jsonReason
  | .bulkSource line => "Invalid bulk source on line " ++ toString line ++ ": " ++ jsonReason
  | .bulkNoSource kind line =>
      "Missing source line for " ++ kind.name ++ " action on line " ++ toString line
  | .bulkNoField kind field => "Bulk " ++ kind.name ++ " action is missing " ++ field.name
  | .emptyDocument => "Document body is empty"
  | .notUtf8 fault => "Request body is not valid UTF-8: " ++ fault.message
  | .reported text => text

def QueryFault.reason : QueryFault → String
  | .noFreeId table => "Could not generate a free document id in " ++ table
  | .database text => "error returned from database: " ++ text
  | .reported text => text

def Illegal.reason : Illegal → String
  | .indexExists => "Index already exists"
  | .typeExists => "Type already exists"
  | .noSuchType => "Type doesn't exist"
  | .documentExists id => "Document with ID " ++ id ++ " already exists"
  | .noSuchDocument id => "Document with ID " ++ id ++ " doesn't exist"
  | .nothingToSearch => "Illegal search query"
  | .reported text => text

def Inconsistency.reason : Inconsistency → String
  | .typeUnreadable index type =>
      "Type " ++ index ++ "/" ++ type ++ " reported existing but could not be read"
  | .nothingInserted => "Insert succeeded but returned no document"
  | .reported text => text

namespace Failure

def reason : Failure → String
  | .malformedInput c => c.reason
  | .queryFailure c => c.reason
  | .illegalOperation c => c.reason
  | .transport text => text
  | .internal c => c.reason

def wireType : Failure → String
  | .malformedInput _ => "json_parse_exception"
  | .queryFailure _ => "db_query_exception"
  | .illegalOperation _ => "illegal_query_exception"
  | .transport _ => "internal_io_exception"
  | .internal _ => "internal_exception"

def status : Failure → Nat
  | .malformedInput _ => 400
  | .illegalOperation _ => 400
  | .queryFailure _ => 500
  | .transport _ => 500
  | .internal _ => 500

def isRecoverable : Failure → Bool
  | .queryFailure _ => true
  | .illegalOperation _ => true
  | _ => false

def describe : Failure → String
  | .malformedInput c => "Malformed input: " ++ c.reason
  | .queryFailure c => "Query failure: " ++ c.reason
  | .illegalOperation c => "Illegal operation: " ++ c.reason
  | .transport text => "Transport I/O error: " ++ text
  | .internal c => "Internal error: " ++ c.reason

end Failure

end SearchStore

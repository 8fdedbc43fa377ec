/-!
Patterns for names. A wildcard pattern, where `*` stands for any run of characters and `?` for one,
is kept as the `LIKE` pattern a database is handed, where `%` and `_` do so and a backslash escapes.
-/

set_option autoImplicit false

namespace SearchStore

structure Pattern where
  text : List Char
deriving DecidableEq, Repr

namespace Pattern

inductive Piece where
  | anyRun
  | anyOne
  | literal (c : Char)
deriving DecidableEq, Repr

def likeOf (c : Char) : List Char :=
  if c = '*' then ['%']
  else if c = '?' then ['_']
  else if c = '%' ∨ c = '_' ∨ c = '\\' then ['\\', c]
  else [c]

def ofWildcard (wildcard : String) : Pattern := ⟨wildcard.toList.flatMap likeOf⟩

def like (p : Pattern) : String := String.ofList p.text

def pieces : List Char → List Piece
  | [] => []
  | '\\' :: c :: rest => .literal c :: pieces rest
  | '\\' :: [] => [.literal '\\']
  | '%' :: rest => .anyRun :: pieces rest
  | '_' :: rest => .anyOne :: pieces rest
  | c :: rest => .literal c :: pieces rest

def spread (marked : Bool) : List Bool → List Bool
  | [] => []
  | b :: rest => (marked || b) :: spread (marked || b) rest

-- The places in a text that a pattern longer by one piece reaches: entry `j` of a row says whether
-- the pieces so far match the first `j` characters.
def advance (text : List Char) (row : List Bool) : Piece → List Bool
  | .anyRun => spread false row
  | .anyOne => false :: row.take text.length
  | .literal c => false :: (text.zip row).map fun e => c == e.1 && e.2

def matchPieces (pieces : List Piece) (text : List Char) : Bool :=
  let row := pieces.foldl (advance text) (true :: List.replicate text.length false)
  row.getLast?.getD false

def accepts (p : Pattern) (text : String) : Bool := matchPieces (pieces p.text) text.toList

end Pattern

end SearchStore

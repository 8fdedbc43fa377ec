import SearchStore.Toml.Scalar

/-!
TOML documents while they are built. A table comes into being through a header of its own, through
the header of a table within it, or through dotted keys; that decides what may be added to it later.
-/

set_option autoImplicit false

namespace SearchStore.Toml

open Json (Draft)

inductive Origin where
  | header
  | innerHeader
  | dottedKey
deriving DecidableEq, Repr

inductive Node where
  | value (d : Draft)
  | table (origin : Origin) (members : List (String × Node))
  -- Tables under one key, the latest first.
  | tables (items : List (List (String × Node)))

namespace Node

abbrev Members := List (String × Node)

def find? (m : Members) (key : String) : Option Node := (m.find? (·.1 == key)).map (·.2)

def put (m : Members) (key : String) (n : Node) : Members :=
  match find? m key with
  | some _ => m.map fun e => if e.1 == key then (key, n) else e
  | none => m ++ [(key, n)]

-- Opens the table of a header. A table has one header only, and dotted keys take its place.
def openTable (m : Members) : List String → Option Members
  | [] => none
  | [key] =>
      match find? m key with
      | none => some (put m key (.table .header []))
      | some (.table .innerHeader inner) => some (put m key (.table .header inner))
      | some _ => none
  | key :: path =>
      match find? m key with
      | none => do some (put m key (.table .innerHeader (← openTable [] path)))
      | some (.table origin inner) => do some (put m key (.table origin (← openTable inner path)))
      | some (.tables (last :: before)) => do
          some (put m key (.tables ((← openTable last path) :: before)))
      | some _ => none

def openItem (m : Members) : List String → Option Members
  | [] => none
  | [key] =>
      match find? m key with
      | none => some (put m key (.tables [[]]))
      | some (.tables items) => some (put m key (.tables ([] :: items)))
      | some _ => none
  | key :: path =>
      match find? m key with
      | none => do some (put m key (.table .innerHeader (← openItem [] path)))
      | some (.table origin inner) => do some (put m key (.table origin (← openItem inner path)))
      | some (.tables (last :: before)) => do
          some (put m key (.tables ((← openItem last path) :: before)))
      | some _ => none

def within (m : Members) (path : List String) (change : Members → Option Members) :
    Option Members :=
  match path with
  | [] => change m
  | key :: path =>
      match find? m key with
      | some (.table origin inner) => do
          some (put m key (.table origin (← within inner path change)))
      | some (.tables (last :: before)) => do
          some (put m key (.tables ((← within last path change) :: before)))
      | _ => none

-- Assigns a value to a key that has none. Dotted keys pass through tables without a header of
-- their own, and the last table on the way must have come from dotted keys.
def assign (m : Members) (path : List String) (d : Draft) : Option Members :=
  match path with
  | [] => none
  | [key] =>
      match find? m key with
      | none => some (put m key (.value d))
      | some _ => none
  | key :: path =>
      match find? m key with
      | none => do some (put m key (.table .dottedKey (← assign [] path d)))
      | some (.table .dottedKey inner) => do
          some (put m key (.table .dottedKey (← assign inner path d)))
      | some (.table .innerHeader inner) =>
          if path.length = 1 then none
          else do some (put m key (.table .innerHeader (← assign inner path d)))
      | some _ => none

mutual
def draft : Node → Draft
  | .value d => d
  | .table _ members => .object (drafts members)
  | .tables items => .array (itemDrafts items).reverse

def drafts : List (String × Node) → List (String × Draft)
  | [] => []
  | (key, n) :: rest => (key, draft n) :: drafts rest

def itemDrafts : List (List (String × Node)) → List Draft
  | [] => []
  | members :: rest => .object (drafts members) :: itemDrafts rest
end

end Node

end SearchStore.Toml

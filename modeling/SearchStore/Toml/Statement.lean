import SearchStore.Toml.Document

/-!
The statements of a TOML text, one on a line: headers that open tables, and assignments to keys.
-/

set_option autoImplicit false

namespace SearchStore.Toml

open Json (Draft)

inductive Statement where
  | table (path : List String)
  | item (path : List String)
  | assign (path : List String) (value : Draft)

def skipComment : List Char → List Char
  | '#' :: rest => rest.dropWhile (!isControl ·)
  | s => s

def endLine? (s : List Char) : Option (List Char) :=
  match skipComment (skipSpaces s) with
  | [] => some []
  | s => newline? s

def skipLines : Nat → List Char → List Char
  | 0, s => s
  | bound + 1, s =>
      match newline? (skipComment (skipSpaces s)) with
      | some after => skipLines bound after
      | none => skipSpaces s

def skipBlank (s : List Char) : List Char := skipLines s.length s

def isKeyChar (c : Char) : Bool :=
  Json.isDigit c || ('a'.toNat ≤ c.toNat && c.toNat ≤ 'z'.toNat)
    || ('A'.toNat ≤ c.toNat && c.toNat ≤ 'Z'.toNat) || c == '-' || c == '_'

def scanKey (s : List Char) : Option (String × List Char) :=
  match scanInline s with
  | some (key, after) => some (String.ofList key, after)
  | none =>
      let key := s.takeWhile isKeyChar
      if key.isEmpty then none else some (String.ofList key, s.dropWhile isKeyChar)

def scanPath : Nat → List Char → Option (List String × List Char)
  | 0, _ => none
  | bound + 1, s => do
      let (key, after) ← scanKey (skipSpaces s)
      match skipSpaces after with
      | '.' :: rest => do
          let (keys, after) ← scanPath bound rest
          some (key :: keys, after)
      | after => some ([key], after)

def path? (s : List Char) : Option (List String × List Char) := scanPath (s.length + 1) s

def depthLimit : Nat := 79

def scanItems (value : List Char → Option (Draft × List Char)) :
    Nat → List Char → Option (List Draft × List Char)
  | 0, _ => none
  | bound + 1, s =>
      match skipBlank s with
      | ']' :: rest => some ([], rest)
      | s => do
          let (d, after) ← value s
          match skipBlank after with
          | ',' :: rest => do
              let (later, after) ← scanItems value bound rest
              some (d :: later, after)
          | ']' :: rest => some ([d], rest)
          | _ => none

def scanPairs (value : List Char → Option (Draft × List Char)) :
    Nat → List Char → Option (List (List String × Draft) × List Char)
  | 0, _ => none
  | bound + 1, s => do
      let (path, after) ← path? s
      let (d, after) ← value (skipSpaces (← char? '=' after))
      match skipSpaces after with
      | ',' :: rest => do
          let (later, after) ← scanPairs value bound rest
          some ((path, d) :: later, after)
      | '\x7d' :: rest => some ([(path, d)], rest)
      | _ => none

def scanValue : Nat → List Char → Option (Draft × List Char)
  | depth, s =>
      match depth, s with
      | _, '"' :: _ => (scanString s).map fun r => (.string (String.ofList r.1), r.2)
      | _, '\'' :: _ => (scanString s).map fun r => (.string (String.ofList r.1), r.2)
      | depth + 1, '[' :: rest => do
          let (items, after) ← scanItems (scanValue depth) (rest.length + 1) rest
          some (.array items, after)
      | depth + 1, '\x7b' :: rest =>
          match skipSpaces rest with
          | '\x7d' :: after => some (.object [], after)
          | rest => do
              let (pairs, after) ← scanPairs (scanValue depth) (rest.length + 1) rest
              let members ← pairs.foldlM (fun m p => Node.assign m p.1 p.2) []
              some (.object (Node.drafts members), after)
      | _, s => do
          let (word, after) := scanWord s
          some (← word? word, after)

def scanHeader (s : List Char) : Option (Statement × List Char) :=
  match s with
  | '[' :: '[' :: rest => do
      let (path, after) ← path? rest
      some (.item path, ← char? ']' (← char? ']' after))
  | '[' :: rest => do
      let (path, after) ← path? rest
      some (.table path, ← char? ']' after)
  | _ => none

def scanAssignment (s : List Char) : Option (Statement × List Char) := do
  let (path, after) ← path? s
  let (d, after) ← scanValue depthLimit (skipSpaces (← char? '=' after))
  some (.assign path d, after)

def scanStatement (s : List Char) : Option (Statement × List Char) :=
  match s with
  | '[' :: _ => scanHeader s
  | _ => scanAssignment s

def statementsUpTo : Nat → List Char → Option (List Statement)
  | 0, _ => none
  | bound + 1, s =>
      match skipBlank s with
      | [] => some []
      | '#' :: rest => if skipComment ('#' :: rest) = [] then some [] else none
      | s => do
          let (statement, after) ← scanStatement s
          let later ← statementsUpTo bound (← endLine? after)
          some (statement :: later)

def statements? (s : List Char) : Option (List Statement) := statementsUpTo (s.length + 1) s

structure Building where
  members : List (String × Node)
  current : List String

def Building.step (b : Building) : Statement → Option Building
  | .table path => do some ⟨← Node.openTable b.members path, path⟩
  | .item path => do some ⟨← Node.openItem b.members path, path⟩
  | .assign path d => do
      some { b with members := ← Node.within b.members b.current (Node.assign · path d) }

def parse? (s : String) : Option Draft := do
  let text :=
    match s.toList with
    | c :: rest => if c.toNat = 0xFEFF then rest else c :: rest
    | [] => []
  let b ← (← statements? text).foldlM Building.step ⟨[], []⟩
  some (.object (Node.drafts b.members))

end SearchStore.Toml

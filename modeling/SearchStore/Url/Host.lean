import SearchStore.Text.Lowercase
import SearchStore.Text.Percent
import SearchStore.Url.Punycode

/-!
The hosts of URLs: names in lower case and ASCII, and addresses of both versions of the Internet
Protocol. A name whose last label is a number is an address. Outside web schemes names are taken as
they are written, and there may be none.
-/

set_option autoImplicit false

namespace SearchStore.Url

inductive Host where
  | name (s : List Char)
  | version4 (address : Nat)
  | version6 (pieces : List Nat)
deriving DecidableEq, Repr

namespace Host

def splitAt (c : Char) : List Char → List (List Char)
  | [] => [[]]
  | d :: rest =>
      if d = c then [] :: splitAt c rest
      else
        match splitAt c rest with
        | part :: later => (d :: part) :: later
        | [] => [[d]]

def joinWith (c : Char) : List (List Char) → List Char
  | [] => []
  | [part] => part
  | part :: rest => part ++ c :: joinWith c rest

def isForbidden (c : Char) : Bool :=
  c.toNat < 0x20 || c.toNat == 0x7F || " #/:<>?@[\\]^|%".toList.contains c

def isDecimal (c : Char) : Bool := '0'.toNat ≤ c.toNat && c.toNat ≤ '9'.toNat

def readBase (base : Nat) (s : List Char) : Option Nat :=
  s.foldlM (fun n c => do
    let d ← Text.hexValue? c
    if d < base then some (base * n + d) else none) 0

-- A part of an address: decimal, octal after a zero, hexadecimal after `0x`.
def part? (s : List Char) : Option Nat :=
  match s with
  | [] => none
  | '0' :: 'x' :: digits => readBase 16 digits
  | '0' :: 'X' :: digits => readBase 16 digits
  | '0' :: d :: digits => readBase 8 (d :: digits)
  | s => readBase 10 s

def labels (s : List Char) : List (List Char) :=
  match (splitAt '.' s).reverse with
  | [] :: rest@(_ :: _) => rest.reverse
  | all => all.reverse

def endsInNumber (s : List Char) : Bool :=
  match (labels s).getLast? with
  | some label => !label.isEmpty && (label.all isDecimal || (part? label).isSome)
  | none => false

def ofParts (parts : List Nat) : Option Nat :=
  match parts.reverse with
  | [] => none
  | last :: before =>
      let room := Nat.pow 256 (4 - before.length)
      if before.length ≤ 3 ∧ before.all (· ≤ 255) ∧ last < room then
        some (before.reverse.foldl (fun n p => 256 * n + p) 0 * room + last)
      else none

def version4? (s : List Char) : Option Nat := do ofParts (← (labels s).mapM part?)

def showDecimal (n : Nat) : List Char := Nat.toDigits 10 n

def showVersion4 (address : Nat) : List Char :=
  joinWith '.' ([0x1000000, 0x10000, 0x100, 1].map fun unit => showDecimal (address / unit % 256))

def piece? (s : List Char) : Option Nat :=
  if s.isEmpty ∨ 4 < s.length then none else readBase 16 s

def dotted? (s : List Char) : Option (List Nat) := do
  let parts := splitAt '.' s
  let plain (p : List Char) : Bool :=
    !p.isEmpty && p.all isDecimal && (p.length == 1 || p.head? != some '0')
  if parts.length = 4 ∧ parts.all plain then
    let values ← parts.mapM (readBase 10)
    if values.all (· ≤ 255) then
      let n := values.foldl (fun n p => 256 * n + p) 0
      some [n / 0x10000, n % 0x10000]
    else none
  else none

def pieces? (mayEndDotted : Bool) : List (List Char) → Option (List Nat)
  | [] => some []
  | [last] =>
      match piece? last with
      | some n => some [n]
      | none => if mayEndDotted then dotted? last else none
  | s :: rest => do some ((← piece? s) :: (← pieces? mayEndDotted rest))

def splitDouble : List Char → Option (List Char × List Char)
  | ':' :: ':' :: rest => some ([], rest)
  | c :: rest => (splitDouble rest).map fun r => (c :: r.1, r.2)
  | [] => none

def piecesOf (mayEndDotted : Bool) (s : List Char) : Option (List Nat) :=
  if s.isEmpty then some [] else pieces? mayEndDotted (splitAt ':' s)

def version6? (s : List Char) : Option (List Nat) := do
  match splitDouble s with
  | none =>
      let pieces ← piecesOf true s
      if pieces.length = 8 then some pieces else none
  | some (front, back) =>
      let front ← piecesOf false front
      let back ← piecesOf true back
      let given := front.length + back.length
      if given < 8 then some (front ++ List.replicate (8 - given) 0 ++ back) else none

def showHex (n : Nat) : List Char := Nat.toDigits 16 n

def zeroRuns : List Nat → List Nat
  | [] => []
  | n :: rest =>
      let later := zeroRuns rest
      (if n = 0 then later.headD 0 + 1 else 0) :: later

-- The first of the longest runs of at least two zeros is left out.
def showVersion6 (pieces : List Nat) : List Char :=
  let runs := zeroRuns pieces
  let longest := runs.foldl max 0
  let joined (l : List Nat) : List Char := joinWith ':' (l.map showHex)
  if 2 ≤ longest then
    let start := runs.findIdx (· == longest)
    joined (pieces.take start) ++ [':', ':'] ++ joined (pieces.drop (start + longest))
  else joined pieces

def written? (s : List Char) : Option Host :=
  if s.any fun c => c != '%' && isForbidden c && 0x20 ≤ c.toNat && c.toNat ≠ 0x7F then none
  else
    some (.name (s.flatMap fun c =>
      if c.toNat < 0x20 ∨ 0x7E < c.toNat then (Text.encodeChar c).flatMap Text.percentEscape
      else [c]))

def web? (s : List Char) : Option Host := do
  let decoded ← Text.percentDecode s
  let name := joinWith '.' ((splitAt '.' (Text.lowercase decoded.toList)).map Punycode.ofLabel)
  if name.isEmpty || name.any isForbidden then none
  else if endsInNumber name then (version4? name).map .version4
  else some (.name name)

def parse? (web : Bool) (s : List Char) : Option Host :=
  match s with
  | '[' :: rest =>
      match rest.reverse with
      | ']' :: inner => (version6? inner.reverse).map .version6
      | _ => none
  | s => if web then web? s else written? s

def text : Host → List Char
  | .name s => s
  | .version4 address => showVersion4 address
  | .version6 pieces => '[' :: showVersion6 pieces ++ [']']

end Host

end SearchStore.Url

import SearchStore.Json.Parser

/-!
Strings, numbers and dates in TOML. Integers have 64 bits with sign, and floats are doubles. Dates
and times, infinities and what is no number are well formed but denote no value here.
-/

set_option autoImplicit false

namespace SearchStore.Toml

open Json (Draft)

def isControl (c : Char) : Bool := (c.toNat < 0x20 && c != '\t') || c.toNat == 0x7F

def isSpace (c : Char) : Bool := c == ' ' || c == '\t'

def skipSpaces (s : List Char) : List Char := s.dropWhile isSpace

def newline? : List Char → Option (List Char)
  | '\n' :: rest => some rest
  | '\r' :: '\n' :: rest => some rest
  | _ => none

def escape? (c : Char) : Option Char :=
  if c = '"' ∨ c = '\\' then some c
  else if c = 'b' then some (Char.ofNat 0x08)
  else if c = 't' then some '\t'
  else if c = 'n' then some '\n'
  else if c = 'f' then some (Char.ofNat 0x0C)
  else if c = 'r' then some '\r'
  else none

def codePoint? (digits : List Char) : Option Char := do
  let values ← digits.mapM Text.hexValue?
  let n := values.foldl (fun n d => 16 * n + d) 0
  if n.isValidChar then some (Char.ofNat n) else none

def scanEscape : List Char → Option (Char × List Char)
  | 'u' :: rest => do
      if rest.length < 4 then none else some (← codePoint? (rest.take 4), rest.drop 4)
  | 'U' :: rest => do
      if rest.length < 8 then none else some (← codePoint? (rest.take 8), rest.drop 8)
  | c :: rest => do some (← escape? c, rest)
  | [] => none

def scanBasic : Nat → List Char → Option (List Char × List Char)
  | 0, _ => none
  | _ + 1, [] => none
  | bound + 1, c :: rest =>
      if c = '"' then some ([], rest)
      else if c = '\\' then do
        let (e, after) ← scanEscape rest
        let (later, after) ← scanBasic bound after
        some (e :: later, after)
      else if isControl c then none
      else do
        let (later, after) ← scanBasic bound rest
        some (c :: later, after)

def scanLiteral : List Char → Option (List Char × List Char)
  | [] => none
  | c :: rest =>
      if c = '\'' then some ([], rest)
      else if isControl c then none
      else do
        let (later, after) ← scanLiteral rest
        some (c :: later, after)

def dropFirstNewline (s : List Char) : List Char := (newline? s).getD s

-- What follows a backslash that ends a line: the rest of the line must be blank, and the blanks
-- and line ends after it are passed over.
def continueLine (s : List Char) : Option (List Char) := do
  let after ← newline? (skipSpaces s)
  some (after.dropWhile fun c => isSpace c || c == '\n' || c == '\r')

-- The quotes at the end of a string over several lines: three close it, and one or two before them
-- belong to it.
def closing? (quote : Char) (s : List Char) : Option (List Char × List Char) :=
  let quotes := (s.takeWhile (· == quote)).length
  if 3 ≤ quotes ∧ quotes ≤ 5 then
    some (List.replicate (quotes - 3) quote, s.drop quotes)
  else none

def scanLines (quote : Char) (escapes : Bool) : Nat → List Char → Option (List Char × List Char)
  | 0, _ => none
  | _ + 1, [] => none
  | bound + 1, c :: rest =>
      match closing? quote (c :: rest) with
      | some found => some found
      | none =>
          if escapes && c == '\\' then
            match continueLine rest with
            | some after => scanLines quote escapes bound after
            | none => do
                let (e, after) ← scanEscape rest
                let (later, after) ← scanLines quote escapes bound after
                some (e :: later, after)
          else
            match newline? (c :: rest) with
            | some after => do
                let (later, after) ← scanLines quote escapes bound after
                some ('\n' :: later, after)
            | none =>
                if isControl c then none
                else do
                  let (later, after) ← scanLines quote escapes bound rest
                  some (c :: later, after)

def scanInline : List Char → Option (List Char × List Char)
  | '"' :: rest => scanBasic (rest.length + 1) rest
  | '\'' :: rest => scanLiteral rest
  | _ => none

def scanString : List Char → Option (List Char × List Char)
  | '"' :: '"' :: '"' :: rest =>
      let rest := dropFirstNewline rest
      scanLines '"' true (rest.length + 1) rest
  | '\'' :: '\'' :: '\'' :: rest =>
      let rest := dropFirstNewline rest
      scanLines '\'' false (rest.length + 1) rest
  | s => scanInline s

def isSign (c : Char) : Bool := c == '+' || c == '-'

def grouped? (isDigit : Char → Bool) : List Char → Option (List Char)
  | [] => none
  | [c] => if isDigit c then some [c] else none
  | c :: '_' :: rest => if isDigit c then (grouped? isDigit rest).map (c :: ·) else none
  | c :: rest => if isDigit c then (grouped? isDigit rest).map (c :: ·) else none

def digitsBelow (base : Nat) (c : Char) : Bool :=
  match Text.hexValue? c with
  | some n => n < base
  | none => false

def readBase (base : Nat) (digits : List Char) : Nat :=
  digits.foldl (fun n c => base * n + (Text.hexValue? c).getD 0) 0

def int64? (i : Int) : Option Draft := do
  if Json.leastInteger ≤ i ∧ i ≤ Json.greatestSigned then some (.number (← Json.Number.ofInt? i))
  else none

def based? : List Char → Option Draft
  | '0' :: 'x' :: s => do int64? (readBase 16 (← grouped? (digitsBelow 16) s))
  | '0' :: 'o' :: s => do int64? (readBase 8 (← grouped? (digitsBelow 8) s))
  | '0' :: 'b' :: s => do int64? (readBase 2 (← grouped? (digitsBelow 2) s))
  | _ => none

def whole? (s : List Char) : Option (List Char) := do
  let digits ← grouped? Json.isDigit s
  if digits.head? = some '0' ∧ digits.length ≠ 1 then none else some digits

def splitSign : List Char → Bool × List Char
  | '-' :: rest => (true, rest)
  | '+' :: rest => (false, rest)
  | s => (false, s)

def integer? (s : List Char) : Option Draft := do
  let (negative, s) := splitSign s
  let n := readBase 10 (← whole? s)
  int64? (if negative then -(n : Int) else n)

def isExponentMark (c : Char) : Bool := c == 'e' || c == 'E'

def exponent? : List Char → Option (Option Int)
  | [] => some none
  | _ :: s => do
      let (negative, s) := splitSign s
      let n := readBase 10 (← grouped? Json.isDigit s)
      some (some (if negative then -(n : Int) else n))

def fraction? : List Char → Option (Option (List Char))
  | [] => some none
  | _ :: s => (grouped? Json.isDigit s).map some

def float? (s : List Char) : Option Draft := do
  let (negative, s) := splitSign s
  if s = "inf".toList ∨ s = "nan".toList then some .unusable
  else
    let (mantissa, tail) := (s.takeWhile (!isExponentMark ·), s.dropWhile (!isExponentMark ·))
    let (front, back) := (mantissa.takeWhile (· != '.'), mantissa.dropWhile (· != '.'))
    let numeral : Json.Numeral :=
      ⟨negative, ← whole? front, ← fraction? back, ← exponent? tail⟩
    some (.number (.float (← numeral.toDouble)))

def ranged? (count low high : Nat) (s : List Char) : Option (Nat × List Char) :=
  let digits := s.take count
  let n := readBase 10 digits
  if digits.length = count ∧ digits.all Json.isDigit ∧ low ≤ n ∧ n ≤ high then
    some (n, s.drop count)
  else none

def char? (c : Char) : List Char → Option (List Char)
  | d :: rest => if c = d then some rest else none
  | [] => none

def daysIn (year month : Nat) : Nat :=
  if month = 2 then
    if year % 4 = 0 ∧ (year % 100 ≠ 0 ∨ year % 400 = 0) then 29 else 28
  else if month = 4 ∨ month = 6 ∨ month = 9 ∨ month = 11 then 30
  else 31

def date? (s : List Char) : Option (List Char) := do
  let (year, s) ← ranged? 4 0 9999 s
  let (month, s) ← ranged? 2 1 12 (← char? '-' s)
  let (_, s) ← ranged? 2 1 (daysIn year month) (← char? '-' s)
  some s

def time? (s : List Char) : Option (List Char) := do
  let (_, s) ← ranged? 2 0 23 s
  let (_, s) ← ranged? 2 0 59 (← char? ':' s)
  let (_, s) ← ranged? 2 0 60 (← char? ':' s)
  match s with
  | '.' :: rest =>
      let after := rest.dropWhile Json.isDigit
      if after.length < rest.length then some after else none
  | _ => some s

def isOffset : List Char → Bool
  | [] => true
  | [c] => c == 'z' || c == 'Z'
  | c :: rest =>
      isSign c && ((do
        let (_, s) ← ranged? 2 0 23 rest
        let (_, s) ← ranged? 2 0 59 (← char? ':' s)
        some s) == some [])

def isDateTime (s : List Char) : Bool :=
  match date? s with
  | some [] => true
  | some (c :: rest) =>
      (c == 'T' || c == 't' || c == ' ')
        && match time? rest with
          | some after => isOffset after
          | none => false
  | none => time? s == some []

def isWordChar (c : Char) : Bool :=
  Json.isDigit c || ('a'.toNat ≤ c.toNat && c.toNat ≤ 'z'.toNat)
    || ('A'.toNat ≤ c.toNat && c.toNat ≤ 'Z'.toNat)
    || c == '+' || c == '-' || c == '_' || c == '.' || c == ':'

def scanWord (s : List Char) : List Char × List Char :=
  let word := s.takeWhile isWordChar
  let rest := s.dropWhile isWordChar
  match date? word, rest with
  | some [], ' ' :: c :: after =>
      if Json.isDigit c then
        (word ++ ' ' :: (c :: after).takeWhile isWordChar, (c :: after).dropWhile isWordChar)
      else (word, rest)
  | _, _ => (word, rest)

def word? (w : List Char) : Option Draft :=
  if w = "true".toList then some (.bool true)
  else if w = "false".toList then some (.bool false)
  else if isDateTime w then some .unusable
  else based? w <|> integer? w <|> float? w

end SearchStore.Toml

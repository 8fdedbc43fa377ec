import SearchStore.Json.Number
import SearchStore.Text.Hex

/-!
The tokens of a JSON text. A string token holds its text, or nothing where an escaped surrogate has
no partner: such a string is well formed and denotes no text.
-/

set_option autoImplicit false

namespace SearchStore.Json

inductive Piece where
  | char (c : Char)
  | unit (n : Nat)
deriving DecidableEq, Repr

def hexUnit (a b c d : Char) : Option Nat := do
  let a ← Text.hexValue? a
  let b ← Text.hexValue? b
  let c ← Text.hexValue? c
  let d ← Text.hexValue? d
  some (((a * 16 + b) * 16 + c) * 16 + d)

def unescape (c : Char) : Option Char :=
  if c = '"' ∨ c = '\\' ∨ c = '/' then some c
  else if c = 'b' then some (Char.ofNat 0x08)
  else if c = 'f' then some (Char.ofNat 0x0C)
  else if c = 'n' then some '\n'
  else if c = 'r' then some '\r'
  else if c = 't' then some '\t'
  else none

def scanString : List Char → Option (List Piece × List Char)
  | [] => none
  | '"' :: rest => some ([], rest)
  | '\\' :: 'u' :: a :: b :: c :: d :: rest => do
      let n ← hexUnit a b c d
      let (pieces, after) ← scanString rest
      some (.unit n :: pieces, after)
  | '\\' :: e :: rest => do
      let c ← unescape e
      let (pieces, after) ← scanString rest
      some (.char c :: pieces, after)
  | c :: rest =>
      if c.toNat < 0x20 ∨ c = '\\' then none
      else do
        let (pieces, after) ← scanString rest
        some (.char c :: pieces, after)

def isHighSurrogate (n : Nat) : Bool := 0xD800 ≤ n && n < 0xDC00

def isLowSurrogate (n : Nat) : Bool := 0xDC00 ≤ n && n < 0xE000

-- The characters of a literal: a high surrogate must be followed by a low one, and a low one may
-- not stand alone.
def characters : List Piece → Option (List Char)
  | [] => some []
  | .char c :: rest => (characters rest).map (c :: ·)
  | .unit n :: rest =>
      if isHighSurrogate n then
        match rest with
        | .unit m :: rest =>
            if isLowSurrogate m then
              let code := 0x10000 + (n - 0xD800) * 0x400 + (m - 0xDC00)
              (characters rest).map (Char.ofNat code :: ·)
            else none
        | _ => none
      else if isLowSurrogate n then none
      else (characters rest).map (Char.ofNat n :: ·)

def isDigit (c : Char) : Bool := '0'.toNat ≤ c.toNat && c.toNat ≤ '9'.toNat

def takeDigits (s : List Char) : List Char × List Char := (s.takeWhile isDigit, s.dropWhile isDigit)

def scanWhole : List Char → Option (List Char × List Char)
  | '0' :: rest => some (['0'], rest)
  | c :: rest => if isDigit c then some (takeDigits (c :: rest)) else none
  | [] => none

def scanFraction : List Char → Option (Option (List Char) × List Char)
  | '.' :: rest =>
      let (digits, after) := takeDigits rest
      if digits.isEmpty then none else some (some digits, after)
  | s => some (none, s)

def scanExponent : List Char → Option (Option Int × List Char)
  | [] => some (none, [])
  | c :: rest =>
      if c = 'e' ∨ c = 'E' then
        let (sign, rest) : Int × List Char :=
          match rest with
          | '+' :: rest => (1, rest)
          | '-' :: rest => (-1, rest)
          | _ => (1, rest)
        let (digits, after) := takeDigits rest
        if digits.isEmpty then none
        else
          let magnitude := digits.foldl (fun n d => 10 * n + Numeral.digitValue d) 0
          some (some (sign * magnitude), after)
      else some (none, c :: rest)

def scanNumeral (s : List Char) : Option (Numeral × List Char) := do
  let (negative, s) :=
    match s with
    | '-' :: rest => (true, rest)
    | _ => (false, s)
  let (whole, s) ← scanWhole s
  let (fraction, s) ← scanFraction s
  let (exponent, s) ← scanExponent s
  some (⟨negative, whole, fraction, exponent⟩, s)

inductive Token where
  | null
  | bool (b : Bool)
  | number (n : Option Number)
  | string (s : Option String)
  | openArray
  | closeArray
  | openObject
  | closeObject
  | comma
  | colon
deriving DecidableEq, Repr

def isSeparator (c : Char) : Bool := c == ' ' || c == '\t' || c == '\n' || c == '\r'

def nextToken : List Char → Option (Token × List Char)
  | [] => none
  | '[' :: rest => some (.openArray, rest)
  | ']' :: rest => some (.closeArray, rest)
  | '\x7b' :: rest => some (.openObject, rest)
  | '\x7d' :: rest => some (.closeObject, rest)
  | ',' :: rest => some (.comma, rest)
  | ':' :: rest => some (.colon, rest)
  | 'n' :: 'u' :: 'l' :: 'l' :: rest => some (.null, rest)
  | 't' :: 'r' :: 'u' :: 'e' :: rest => some (.bool true, rest)
  | 'f' :: 'a' :: 'l' :: 's' :: 'e' :: rest => some (.bool false, rest)
  | '"' :: rest => do
      let (pieces, after) ← scanString rest
      some (.string ((characters pieces).map String.ofList), after)
  | s => do
      let (numeral, after) ← scanNumeral s
      some (.number numeral.value?, after)

def tokensUpTo : Nat → List Char → Option (List Token)
  | 0, s => if s.all isSeparator then some [] else none
  | bound + 1, s =>
      match s.dropWhile isSeparator with
      | [] => some []
      | c :: rest => do
          let (token, after) ← nextToken (c :: rest)
          let later ← tokensUpTo bound after
          some (token :: later)

-- The tokens of a text; every token takes at least one character.
def tokens (s : List Char) : Option (List Token) := tokensUpTo s.length s

end SearchStore.Json

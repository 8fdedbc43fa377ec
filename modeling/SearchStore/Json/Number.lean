import SearchStore.Numeric.Shortest

/-!
JSON numbers. An integer between `-2^63` and `2^64 - 1` written without fraction or exponent is kept
exactly; every other number is a finite double. The sign of zero makes a number a double as well.
-/

set_option autoImplicit false

namespace SearchStore.Json

open Numeric

def leastInteger : Int := -0x8000000000000000

def greatestInteger : Int := 0xFFFFFFFFFFFFFFFF

def greatestSigned : Int := 0x7FFFFFFFFFFFFFFF

inductive Number where
  | integer (value : Int) (fits : leastInteger ≤ value ∧ value ≤ greatestInteger)
  | float (value : Binary)
deriving DecidableEq, Repr

namespace Number

def ofInt? (i : Int) : Option Number :=
  if h : leastInteger ≤ i ∧ i ≤ greatestInteger then some (.integer i h) else none

def ofRounded? : Rounded → Option Number
  | .finite b => some (.float b)
  | .infinite _ => none

def integer? : Number → Option Int
  | .integer i _ => some i
  | .float _ => none

def rounded (f : Format) : Number → Rounded
  | .integer i _ => f.ofNat (i < 0) i.natAbs
  | .float b => f.convert (.finite b)

-- The layout of doubles: positional from `10^-5` to below `10^16`, always with a fraction;
-- otherwise an exponent with its sign.
def layout (negative : Bool) (digits : List Char) (lead : Int) : List Char :=
  let sign := if negative then ['-'] else []
  sign ++
    if 0 ≤ lead ∧ lead < 16 then
      let whole := lead.toNat + 1
      if digits.length ≤ whole then
        digits ++ List.replicate (whole - digits.length) '0' ++ ['.', '0']
      else digits.take whole ++ '.' :: digits.drop whole
    else if -5 ≤ lead ∧ lead < 0 then
      '0' :: '.' :: List.replicate ((-lead).toNat - 1) '0' ++ digits
    else
      let mark := if lead < 0 then ['e', '-'] else ['e', '+']
      let fraction := if digits.length ≤ 1 then [] else '.' :: digits.drop 1
      digits.take 1 ++ fraction ++ mark ++ digitChars lead.natAbs

def printFloat (b : Binary) : List Char :=
  if b.isZero then layout b.negative ['0'] 0
  else
    let d := b.shortest double
    layout b.negative d.significant d.leading

def printInt (i : Int) : List Char :=
  if i < 0 then '-' :: digitChars i.natAbs else digitChars i.natAbs

def print : Number → List Char
  | .integer i _ => printInt i
  | .float b => printFloat b

end Number

structure Numeral where
  negative : Bool
  whole : List Char
  fraction : Option (List Char)
  exponent : Option Int
deriving DecidableEq, Repr

namespace Numeral

def digitValue (c : Char) : Nat := c.toNat - '0'.toNat

def greatestSignificand : Nat := 0xFFFFFFFFFFFFFFFF

def gather (n : Nat) : List Char → Nat × List Char
  | [] => (n, [])
  | c :: rest =>
      let next := 10 * n + digitValue c
      if next ≤ greatestSignificand then gather next rest else (n, c :: rest)

-- The significand in 64 bits and the power of ten to scale it by. Whole digits that do not fit
-- raise the power; fraction digits that do not fit are dropped.
def significand (x : Numeral) : Nat × Int :=
  let whole := gather 0 x.whole
  let fraction := gather whole.1 (x.fraction.getD [])
  let taken := (x.fraction.getD []).length - fraction.2.length
  (fraction.1, (whole.2.length : Int) - taken + x.exponent.getD 0)

-- Divides by a power of ten in steps of at most `10^308`, stopping at zero.
def scaleDown (b : Binary) (e : Nat) : Binary :=
  if e ≤ 308 then (double.div b (double.powerOfTen e)).finite?.getD b
  else if b.isZero then b
  else scaleDown ((double.div b (double.powerOfTen 308)).finite?.getD b) (e - 308)
termination_by e

def toDouble (x : Numeral) : Option Binary := do
  let (m, e) := x.significand
  let b ← (double.ofNat false m).finite?
  let magnitude ←
    if e < 0 then some (scaleDown b e.natAbs)
    else if e ≤ 308 then (double.mul b (double.powerOfTen e.toNat)).finite?
    else if b.isZero then some b else none
  some (if x.negative then magnitude.negate else magnitude)

def integer? (x : Numeral) : Option Int :=
  if x.fraction.isSome || x.exponent.isSome then none
  else
    let n := (x.whole.foldl (fun n c => 10 * n + digitValue c) 0 : Nat)
    if x.negative then (if n = 0 then none else some (-(n : Int))) else some n

def value? (x : Numeral) : Option Number :=
  match x.integer?.bind Number.ofInt? with
  | some n => some n
  | none => x.toDouble.map .float

end Numeral

end SearchStore.Json

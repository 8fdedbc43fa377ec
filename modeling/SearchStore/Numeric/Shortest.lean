import SearchStore.Numeric.Binary

/-!
The shortest decimal that reads back to a binary number: of all decimals that round to the value,
one with the fewest digits, and of those the nearest, a tie to the even digit.
-/

set_option autoImplicit false

namespace SearchStore.Numeric

structure Decimal where
  digits : Nat
  exponent : Int
deriving DecidableEq, Repr

def compareScaled (a : Nat) (i : Int) (n : Nat) (j : Int) : Ordering :=
  compare (a * Nat.pow 10 i.toNat * Nat.pow 2 (-j).toNat)
    (n * Nat.pow 2 j.toNat * Nat.pow 10 (-i).toNat)

namespace Binary

-- The gap below the least significand of a binade is half the gap above it.
def narrowBelow (f : Format) (b : Binary) : Bool :=
  b.significand == Nat.pow 2 (f.precision - 1) && f.leastExponent < b.exponent

-- The decimal lies among the reals that round to the value: at most half a gap away, the ends
-- included when the significand is even.
def readsBack (f : Format) (b : Binary) (d : Decimal) : Bool :=
  let low := if b.narrowBelow f then 4 * b.significand - 1 else 4 * b.significand - 2
  let high := 4 * b.significand + 2
  let closed := b.significand % 2 == 0
  let fromLow := compareScaled d.digits d.exponent low (b.exponent - 2)
  let toHigh := compareScaled d.digits d.exponent high (b.exponent - 2)
  (fromLow == .gt || closed && fromLow == .eq) && (toHigh == .lt || closed && toHigh == .eq)

def decimalLength (n : Nat) : Nat := (Nat.toDigits 10 n).length

def scale (b : Binary) : Int :=
  if b.denominator ≤ b.numerator then decimalLength (b.numerator / b.denominator)
  else
    let zeros := decimalLength (b.denominator / b.numerator) - 1
    -- the value is at least 10^(-zeros - 1), and reaches 10^(-zeros) only when the ratio is exact
    if b.denominator ≤ b.numerator * Nat.pow 10 zeros then 1 - (zeros : Int) else -(zeros : Int)

def onGrid (f : Format) (b : Binary) (e : Int) : Option Decimal :=
  let num := b.numerator * Nat.pow 10 (-e).toNat
  let den := b.denominator * Nat.pow 10 e.toNat
  let floor := num / den
  let below : Decimal := ⟨floor, e⟩
  let above : Decimal := ⟨floor + 1, e⟩
  match b.readsBack f below, b.readsBack f above with
  | true, true => some ⟨roundDiv num den, e⟩
  | true, false => some below
  | false, true => some above
  | false, false => none

def exactDecimal (b : Binary) : Decimal :=
  if 0 ≤ b.exponent then ⟨b.numerator, 0⟩
  else ⟨b.significand * Nat.pow 5 (-b.exponent).toNat, b.exponent⟩

def shortest (f : Format) (b : Binary) : Decimal :=
  let better (n : Nat) : Option Decimal := b.onGrid f (b.scale - n - 1)
  ((List.range 17).findSome? better).getD b.exactDecimal

end Binary

def digitChars (n : Nat) : List Char := Nat.toDigits 10 n

def Decimal.significant (d : Decimal) : List Char :=
  ((digitChars d.digits).reverse.dropWhile (· == '0')).reverse

def Decimal.leading (d : Decimal) : Int := ((digitChars d.digits).length : Int) - 1 + d.exponent

end SearchStore.Numeric

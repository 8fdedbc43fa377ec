/-!
Binary floating-point numbers as exact dyadic values, and the rounding of a ratio of naturals to the
nearest of them. Every operation is the exact result, rounded once.
-/

set_option autoImplicit false

namespace SearchStore.Numeric

-- A width of binary numbers: finite values are `m * 2^q` with `m` below `2^precision` and `q`
-- between the two bounds.
structure Format where
  precision : Nat
  leastExponent : Int
  greatestExponent : Int
deriving DecidableEq, Repr

def double : Format := ⟨53, -1074, 971⟩

def single : Format := ⟨24, -149, 104⟩

-- A finite value. The significand is as long as the precision allows, or the exponent is least.
structure Binary where
  negative : Bool
  significand : Nat
  exponent : Int
deriving DecidableEq, Repr

namespace Binary

def numerator (b : Binary) : Nat := b.significand * Nat.pow 2 b.exponent.toNat

def denominator (b : Binary) : Nat := Nat.pow 2 (-b.exponent).toNat

def isZero (b : Binary) : Bool := b.significand == 0

def negate (b : Binary) : Binary := { b with negative := !b.negative }

def less (a b : Binary) : Bool :=
  let x : Int := (if a.negative then -1 else 1) * (a.numerator * b.denominator : Nat)
  let y : Int := (if b.negative then -1 else 1) * (b.numerator * a.denominator : Nat)
  x < y

end Binary

inductive Rounded where
  | finite (value : Binary)
  | infinite (negative : Bool)
deriving DecidableEq, Repr

def Rounded.finite? : Rounded → Option Binary
  | .finite b => some b
  | .infinite _ => none

def Rounded.less : Rounded → Rounded → Bool
  | .finite a, .finite b => a.less b
  | .finite _, .infinite negative => !negative
  | .infinite negative, .finite _ => negative
  | .infinite a, .infinite b => a && !b

def roundDiv (num den : Nat) : Nat :=
  let q := num / den
  let twice := 2 * (num % den)
  if twice < den then q
  else if den < twice then q + 1
  else if q % 2 = 0 then q else q + 1

namespace Format

def zero (f : Format) (negative : Bool) : Binary := ⟨negative, 0, f.leastExponent⟩

def scaled (num den : Nat) (q : Int) : Nat × Nat :=
  (num * Nat.pow 2 (-q).toNat, den * Nat.pow 2 q.toNat)

def round (f : Format) (negative : Bool) (num den : Nat) : Rounded :=
  if num = 0 then .finite (f.zero negative)
  else
    -- the ratio lies strictly between 2^(lead - 1) and 2^(lead + 1)
    let lead : Int := (num.log2 : Int) - den.log2
    let low := max (lead - f.precision) f.leastExponent
    let tight := scaled num den low
    let q := if tight.1 / tight.2 < Nat.pow 2 f.precision then low else low + 1
    let ratio := scaled num den q
    let m := roundDiv ratio.1 ratio.2
    -- rounding up may reach the next power of two
    let carried := m == Nat.pow 2 f.precision
    let m := if carried then m / 2 else m
    let q := if carried then q + 1 else q
    if f.greatestExponent < q then .infinite negative else .finite ⟨negative, m, q⟩

def ofNat (f : Format) (negative : Bool) (n : Nat) : Rounded := f.round negative n 1

def convert (f : Format) : Rounded → Rounded
  | .finite b => f.round b.negative b.numerator b.denominator
  | .infinite negative => .infinite negative

def mul (f : Format) (a b : Binary) : Rounded :=
  f.round (a.negative != b.negative) (a.numerator * b.numerator) (a.denominator * b.denominator)

def div (f : Format) (a b : Binary) : Rounded :=
  f.round (a.negative != b.negative) (a.numerator * b.denominator) (a.denominator * b.numerator)

def powerOfTen (f : Format) (e : Nat) : Binary :=
  match f.ofNat false (Nat.pow 10 e) with
  | .finite b => b
  | .infinite _ => f.zero false

end Format

end SearchStore.Numeric

/-!
Punycode: labels of a host name in ASCII. The characters of a label that are ASCII are kept in
front; the others follow as differences, from the least code point to the greatest and from left to
right, in numerals of base 36 whose digit weights adapt to the differences before.
-/

set_option autoImplicit false

namespace SearchStore.Url.Punycode

def digit (d : Nat) : Char :=
  if d < 26 then Char.ofNat ('a'.toNat + d) else Char.ofNat ('0'.toNat + (d - 26))

def threshold (place bias : Nat) : Nat :=
  if place ≤ bias + 1 then 1 else if bias + 26 ≤ place then 26 else place - bias

theorem threshold_pos (place bias : Nat) : 0 < threshold place bias := by
  unfold threshold
  split
  · omega
  · split <;> omega

def shrink (delta places : Nat) : Nat × Nat :=
  if 455 < delta then shrink (delta / 35) (places + 36) else (delta, places)
termination_by delta
decreasing_by exact Nat.div_lt_self (by omega) (by omega)

def adapt (delta count : Nat) (first : Bool) : Nat :=
  let scaled := if first then delta / 700 else delta / 2
  let (rest, places) := shrink (scaled + scaled / count) 0
  places + 36 * rest / (rest + 38)

def numeral (q place bias : Nat) : List Char :=
  let t := threshold place bias
  if t ≤ q then digit (t + (q - t) % (36 - t)) :: numeral ((q - t) / (36 - t)) (place + 36) bias
  else [digit q]
termination_by q
decreasing_by
  rename_i reached
  have positive := threshold_pos place bias
  have smaller := Nat.div_le_self (q - threshold place bias) (36 - threshold place bias)
  omega

structure Encoding where
  delta : Nat
  bias : Nat
  handled : Nat
  first : Bool
  output : List Char

def visit (turn : Nat) (e : Encoding) (c : Char) : Encoding :=
  if c.toNat < turn then { e with delta := e.delta + 1 }
  else if c.toNat = turn then
    { delta := 0, bias := adapt e.delta (e.handled + 1) e.first, handled := e.handled + 1
      first := false, output := e.output ++ numeral e.delta 36 e.bias }
  else e

def turn (label : List Char) (state : Encoding × Nat) (point : Nat) : Encoding × Nat :=
  let e := state.1
  let e := { e with delta := e.delta + (point - state.2) * (e.handled + 1) }
  let e := label.foldl (visit point) e
  ({ e with delta := e.delta + 1 }, point + 1)

def isBasic (c : Char) : Bool := c.toNat < 0x80

def insertPoint (n : Nat) : List Nat → List Nat
  | [] => [n]
  | m :: rest =>
      if n < m then n :: m :: rest
      else if n = m then m :: rest
      else m :: insertPoint n rest

def points (label : List Char) : List Nat :=
  (label.filter (!isBasic ·)).foldl (fun l c => insertPoint c.toNat l) []

def encode (label : List Char) : List Char :=
  let basic := label.filter isBasic
  let front := if basic.isEmpty then [] else basic ++ ['-']
  let start : Encoding := ⟨0, 72, basic.length, true, front⟩
  ((points label).foldl (turn label) (start, 0x80)).1.output

def ofLabel (label : List Char) : List Char :=
  if label.all isBasic then label else "xn--".toList ++ encode label

end SearchStore.Url.Punycode

import SearchStore.Text.AlphanumericRanges
import SearchStore.Text.Blank

/-!
Letters and digits of any script: the characters words are made of.
-/

set_option autoImplicit false

namespace SearchStore.Text

def isAlphanumeric (c : Char) : Bool :=
  if c.toNat < 0x1000 then inRanges alphanumericLow c.toNat
  else if c.toNat < 0x10000 then inRanges alphanumericMiddle c.toNat
  else inRanges alphanumericHigh c.toNat

end SearchStore.Text

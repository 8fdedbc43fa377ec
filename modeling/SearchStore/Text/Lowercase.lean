import SearchStore.Text.Blank
import SearchStore.Text.CasedRanges
import SearchStore.Text.LowercaseRuns

/-!
Full lower casing of a text. Two letters need more than a map of code points: the dotted capital I
becomes two code points, and capital sigma has a form of its own at the end of a word.
-/

set_option autoImplicit false

namespace SearchStore.Text

def isCased (c : Char) : Bool := inRanges casedRanges c.toNat

def isCaseIgnorable (c : Char) : Bool := inRanges caseIgnorableRanges c.toNat

def CaseRun.covers (r : CaseRun) (n : Nat) : Bool :=
  r.first ≤ n && n ≤ r.last && (n - r.first) % r.stride == 0

def lowerChar (c : Char) : List Char :=
  if c.toNat < 0x80 then
    if 'A'.toNat ≤ c.toNat ∧ c.toNat ≤ 'Z'.toNat then [Char.ofNat (c.toNat + 0x20)] else [c]
  else if c.toNat = 0x130 then ['i', Char.ofNat 0x307]
  else
    match lowercaseRuns.find? (·.covers c.toNat) with
    | some r => [Char.ofNat (r.image + (c.toNat - r.first))]
    | none => [c]

def meetsCased (s : List Char) : Bool :=
  match s.dropWhile isCaseIgnorable with
  | c :: _ => isCased c
  | [] => false

def capitalSigma : Char := Char.ofNat 0x3A3

def smallSigma : Char := Char.ofNat 0x3C3

def finalSigma : Char := Char.ofNat 0x3C2

-- Lower casing with the characters before the text given, nearest first.
def lowerAfter (passed : List Char) : List Char → List Char
  | [] => []
  | c :: rest =>
      (if c = capitalSigma then
        if meetsCased passed && !meetsCased rest then [finalSigma] else [smallSigma]
      else lowerChar c) ++ lowerAfter (c :: passed) rest

def lowercase (s : List Char) : List Char := lowerAfter [] s

end SearchStore.Text

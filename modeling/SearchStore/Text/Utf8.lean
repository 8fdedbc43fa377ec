/-!
UTF-8: the character an octet sequence starts with, and the texts of whole sequences. A fault says
how far the sequence is sound and how many octets the unsound start of a character has; at the end
of the sequence that number is not given, for the character may only be cut short.
-/

set_option autoImplicit false

namespace SearchStore.Text

structure Utf8Fault where
  sound : Nat
  length : Option Nat
deriving DecidableEq, Repr

def Utf8Fault.message (f : Utf8Fault) : String :=
  match f.length with
  | some n =>
      "invalid utf-8 sequence of " ++ toString n ++ " bytes from index " ++ toString f.sound
  | none => "incomplete utf-8 byte sequence from index " ++ toString f.sound

-- The octets after the first: how many there are, and the range of the first of them. Overlong
-- forms, surrogates and numbers beyond U+10FFFF are ruled out by that range.
def continuation (first : Nat) : Option (Nat × Nat × Nat) :=
  if first < 0x80 then some (0, 0, 0)
  else if first < 0xC2 then none
  else if first < 0xE0 then some (1, 0x80, 0xBF)
  else if first = 0xE0 then some (2, 0xA0, 0xBF)
  else if first = 0xED then some (2, 0x80, 0x9F)
  else if first < 0xF0 then some (2, 0x80, 0xBF)
  else if first = 0xF0 then some (3, 0x90, 0xBF)
  else if first < 0xF4 then some (3, 0x80, 0xBF)
  else if first = 0xF4 then some (3, 0x80, 0x8F)
  else none

def leadBits (first : Nat) : Nat :=
  if first < 0x80 then first
  else if first < 0xE0 then first - 0xC0
  else if first < 0xF0 then first - 0xE0
  else first - 0xF0

inductive Sequel where
  | complete (code : Nat) (rest : List Nat)
  | broken (taken : Nat)
  | cut
deriving DecidableEq, Repr

def sequel (code taken low high : Nat) : Nat → List Nat → Sequel
  | 0, rest => .complete code rest
  | _ + 1, [] => .cut
  | due + 1, b :: rest =>
      if low ≤ b ∧ b ≤ high then sequel (code * 64 + (b - 0x80)) (taken + 1) 0x80 0xBF due rest
      else .broken taken

def decodeFrom : Nat → Nat → List Nat → Except Utf8Fault (List Char)
  | 0, _, _ => .ok []
  | _ + 1, _, [] => .ok []
  | bound + 1, sound, first :: rest =>
      match continuation first with
      | none => .error ⟨sound, some 1⟩
      | some (due, low, high) =>
          match sequel (leadBits first) 1 low high due rest with
          | .complete code rest => do
              let later ← decodeFrom bound (sound + 1 + due) rest
              .ok (Char.ofNat code :: later)
          | .broken taken => .error ⟨sound, some taken⟩
          | .cut => .error ⟨sound, none⟩

def decodeUtf8 (octets : List Nat) : Except Utf8Fault (List Char) :=
  decodeFrom octets.length 0 octets

def encodeChar (c : Char) : List Nat :=
  let n := c.toNat
  if n < 0x80 then [n]
  else if n < 0x800 then [0xC0 + n / 64, 0x80 + n % 64]
  else if n < 0x10000 then [0xE0 + n / 4096, 0x80 + n / 64 % 64, 0x80 + n % 64]
  else [0xF0 + n / 262144, 0x80 + n / 4096 % 64, 0x80 + n / 64 % 64, 0x80 + n % 64]

def encodeUtf8 (s : List Char) : List Nat := s.flatMap encodeChar

end SearchStore.Text

import SearchStore.Text.Hex
import SearchStore.Text.Utf8

/-!
Percent-encoding in URLs. A percent sign that two hexadecimal digits do not follow stands for
itself.
-/

set_option autoImplicit false

namespace SearchStore.Text

def percentEscape (n : Nat) : List Char :=
  ['%', (hexDigit (n / 16)).toUpper, (hexDigit (n % 16)).toUpper]

def percentOctets : List Char → List Nat
  | '%' :: h :: l :: rest =>
      match hexValue? h, hexValue? l with
      | some high, some low => (16 * high + low) :: percentOctets rest
      | _, _ => encodeChar '%' ++ percentOctets (h :: l :: rest)
  | c :: rest => encodeChar c ++ percentOctets rest
  | [] => []

def percentDecode (s : List Char) : Option String :=
  match decodeUtf8 (percentOctets s) with
  | .ok text => some (String.ofList text)
  | .error _ => none

end SearchStore.Text

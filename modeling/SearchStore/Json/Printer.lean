import SearchStore.Json.Value
import SearchStore.Text.Hex

/-!
JSON texts of values: a compact one without blanks, and one with an element on each line and two
spaces of indentation per level, where an empty container stays on its line.
-/

set_option autoImplicit false

namespace SearchStore.Json

def printChar (c : Char) : List Char :=
  if c = '"' then ['\\', '"']
  else if c = '\\' then ['\\', '\\']
  else if c = '\n' then ['\\', 'n']
  else if c = '\r' then ['\\', 'r']
  else if c = '\t' then ['\\', 't']
  else if c.toNat = 0x08 then ['\\', 'b']
  else if c.toNat = 0x0C then ['\\', 'f']
  else if c.toNat < 0x20 then
    ['\\', 'u', '0', '0', Text.hexDigit (c.toNat / 16), Text.hexDigit (c.toNat % 16)]
  else [c]

def printString (s : String) : List Char := '"' :: s.toList.flatMap printChar ++ ['"']

def printBool (b : Bool) : List Char := (if b then "true" else "false").toList

mutual
def print : Json → List Char
  | .null => "null".toList
  | .bool b => printBool b
  | .number n => n.print
  | .string s => printString s
  | .array items => '[' :: printItems items ++ [']']
  | .object members => '\x7b' :: printMembers members ++ ['\x7d']

def printItems : List Json → List Char
  | [] => []
  | [v] => print v
  | v :: rest => print v ++ ',' :: printItems rest

def printMembers : List (String × Json) → List Char
  | [] => []
  | [(k, v)] => printString k ++ ':' :: print v
  | (k, v) :: rest => printString k ++ ':' :: print v ++ ',' :: printMembers rest
end

def text (v : Json) : String := String.ofList (print v)

def newLine (level : Nat) : List Char := '\n' :: List.replicate (2 * level) ' '

mutual
def printPretty (level : Nat) : Json → List Char
  | .null => "null".toList
  | .bool b => printBool b
  | .number n => n.print
  | .string s => printString s
  | .array [] => ['[', ']']
  | .array items => '[' :: printPrettyItems (level + 1) items ++ newLine level ++ [']']
  | .object [] => ['\x7b', '\x7d']
  | .object members =>
      '\x7b' :: printPrettyMembers (level + 1) members ++ newLine level ++ ['\x7d']

def printPrettyItems (level : Nat) : List Json → List Char
  | [] => []
  | [v] => newLine level ++ printPretty level v
  | v :: rest => newLine level ++ printPretty level v ++ ',' :: printPrettyItems level rest

def printPrettyMembers (level : Nat) : List (String × Json) → List Char
  | [] => []
  | [(k, v)] => newLine level ++ printString k ++ ':' :: ' ' :: printPretty level v
  | (k, v) :: rest =>
      newLine level ++ printString k ++ ':' :: ' ' :: printPretty level v
        ++ ',' :: printPrettyMembers level rest
end

def prettyText (v : Json) : String := String.ofList (printPretty 0 v)

end SearchStore.Json

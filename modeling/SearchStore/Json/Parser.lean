import SearchStore.Json.Lexer
import SearchStore.Json.Value

/-!
Reading JSON texts. A text is first read as a draft, which keeps the members of an object as they
are written and marks what is well formed but denotes no value: a string with a lone surrogate, a
number beyond the doubles, a container nested too deep. A draft in which nothing of the kind occurs
denotes a value, in which the last of several members under one key counts.
-/

set_option autoImplicit false

namespace SearchStore.Json

inductive Draft where
  | null
  | bool (b : Bool)
  | number (n : Number)
  | string (s : String)
  | array (items : List Draft)
  | object (members : List (String × Draft))
  | unusable

def depthLimit : Nat := 127

-- A container that is being read, with what it holds so far, the latest first, and the key of the
-- member at hand.
inductive Frame where
  | items (before : List Draft)
  | members (before : List (Option String × Draft)) (key : Option String)

inductive Expected where
  | value
  | firstItem
  | firstKey
  | key
  | colon
  | separator
  | nothing (result : Draft)

structure Reading where
  frames : List Frame
  expected : Expected

namespace Reading

def start : Reading := ⟨[], .value⟩

def deliver (frames : List Frame) (d : Draft) : Reading :=
  match frames with
  | [] => ⟨[], .nothing d⟩
  | .items before :: outer => ⟨.items (d :: before) :: outer, .separator⟩
  | .members before key :: outer => ⟨.members ((key, d) :: before) key :: outer, .separator⟩

def closeMembers : List (Option String × Draft) → Option (List (String × Draft))
  | [] => some []
  | (none, _) :: _ => none
  | (some k, d) :: rest => (closeMembers rest).map ((k, d) :: ·)

def close (outer : List Frame) (d : Draft) : Reading :=
  deliver outer (if outer.length < depthLimit then d else .unusable)

def closeArray (before : List Draft) (outer : List Frame) : Reading :=
  close outer (.array before.reverse)

def closeObject (before : List (Option String × Draft)) (outer : List Frame) : Reading :=
  close outer
    (match closeMembers before.reverse with
    | some members => .object members
    | none => .unusable)

def value (frames : List Frame) : Token → Option Reading
  | .null => some (deliver frames .null)
  | .bool b => some (deliver frames (.bool b))
  | .number (some n) => some (deliver frames (.number n))
  | .number none => some (deliver frames .unusable)
  | .string (some s) => some (deliver frames (.string s))
  | .string none => some (deliver frames .unusable)
  | .openArray => some ⟨.items [] :: frames, .firstItem⟩
  | .openObject => some ⟨.members [] none :: frames, .firstKey⟩
  | _ => none

def step (r : Reading) (t : Token) : Option Reading :=
  match r.expected, r.frames with
  | .value, frames => value frames t
  | .firstItem, .items _ :: outer =>
      if t = .closeArray then some (closeArray [] outer) else value r.frames t
  | .firstKey, .members before _ :: outer =>
      match t with
      | .closeObject => some (closeObject before outer)
      | .string key => some ⟨.members before key :: outer, .colon⟩
      | _ => none
  | .key, .members before _ :: outer =>
      match t with
      | .string key => some ⟨.members before key :: outer, .colon⟩
      | _ => none
  | .colon, frames => if t = .colon then some ⟨frames, .value⟩ else none
  | .separator, .items before :: outer =>
      match t with
      | .comma => some ⟨.items before :: outer, .value⟩
      | .closeArray => some (closeArray before outer)
      | _ => none
  | .separator, .members before key :: outer =>
      match t with
      | .comma => some ⟨.members before key :: outer, .key⟩
      | .closeObject => some (closeObject before outer)
      | _ => none
  | _, _ => none

def result? (r : Reading) : Option Draft :=
  match r.expected with
  | .nothing d => some d
  | _ => none

end Reading

namespace Draft

def ofTokens? (ts : List Token) : Option Draft := (ts.foldlM Reading.step .start).bind (·.result?)

def ofChars? (s : List Char) : Option Draft := (tokens s).bind ofTokens?

def parse? (s : String) : Option Draft := ofChars? s.toList

mutual
def value? : Draft → Option Json
  | .null => some .null
  | .bool b => some (.bool b)
  | .number n => some (.number n)
  | .string s => some (.string s)
  | .array items => (itemValues? items).map .array
  | .object members => (memberValues? members).map Json.ofMembers
  | .unusable => none

def itemValues? : List Draft → Option (List Json)
  | [] => some []
  | d :: rest => do
      let v ← value? d
      let later ← itemValues? rest
      some (v :: later)

def memberValues? : List (String × Draft) → Option (List (String × Json))
  | [] => some []
  | (k, d) :: rest => do
      let v ← value? d
      let later ← memberValues? rest
      some ((k, v) :: later)
end

mutual
def ofValue : Json → Draft
  | .null => .null
  | .bool b => .bool b
  | .number n => .number n
  | .string s => .string s
  | .array items => .array (ofItems items)
  | .object members => .object (ofMembers members)

def ofItems : List Json → List Draft
  | [] => []
  | v :: rest => ofValue v :: ofItems rest

def ofMembers : List (String × Json) → List (String × Draft)
  | [] => []
  | (k, v) :: rest => (k, ofValue v) :: ofMembers rest
end

mutual
def depth : Draft → Nat
  | .array items => depthOfItems items + 1
  | .object members => depthOfMembers members + 1
  | _ => 1

def depthOfItems : List Draft → Nat
  | [] => 0
  | d :: rest => max (depth d) (depthOfItems rest)

def depthOfMembers : List (String × Draft) → Nat
  | [] => 0
  | (_, d) :: rest => max (depth d) (depthOfMembers rest)
end

def isUsable (d : Draft) : Bool := d.value?.isSome

end Draft

def parse? (s : String) : Option Json := (Draft.parse? s).bind (·.value?)

end SearchStore.Json

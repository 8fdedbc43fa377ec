import SearchStore.Json.Parser

/-!
Reading records out of drafts. A record is written as an object of its fields, where fields it does
not have are passed over unread and a field given twice is refused, or as an array of its fields in
order, which may stop early where the fields left out have a default.
-/

set_option autoImplicit false

namespace SearchStore.Json.Draft

variable {α : Type}

def string? : Draft → Option String
  | .string s => some s
  | _ => none

def bool? : Draft → Option Bool
  | .bool b => some b
  | _ => none

def integer? : Draft → Option Int
  | .number n => n.integer?
  | _ => none

def nat? (greatest : Nat) (d : Draft) : Option Nat := do
  let i ← d.integer?
  if 0 ≤ i ∧ i ≤ greatest then some i.toNat else none

def greatest16 : Nat := 0xFFFF

def greatest32 : Nat := 0xFFFFFFFF

def greatest64 : Nat := 0xFFFFFFFFFFFFFFFF

def nat16? : Draft → Option Nat := nat? greatest16

def nat32? : Draft → Option Nat := nat? greatest32

def nat64? : Draft → Option Nat := nat? greatest64

def int64? (d : Draft) : Option Int := do
  let i ← d.integer?
  if leastInteger ≤ i ∧ i ≤ greatestSigned then some i else none

def real? (f : Numeric.Format) : Draft → Option Numeric.Rounded
  | .number n => some (n.rounded f)
  | _ => none

def nullable (read : Draft → Option α) : Draft → Option (Option α)
  | .null => some none
  | d => (read d).map some

def list? (read : Draft → Option α) : Draft → Option (List α)
  | .array items => items.mapM read
  | _ => none

-- An object from any keys to values of one kind, the last of several under one key.
def keyed? (read : Draft → Option α) : Draft → Option (Keyed α)
  | .object members =>
      (members.mapM fun m => (read m.2).map fun a => (m.1, a)).map Keyed.ofList
  | _ => none

def tagged? : Draft → Option (String × Draft)
  | .object [member] => some member
  | _ => none

-- What is written for a field: nothing in an object, nothing in an array, or a draft.
inductive Slot where
  | noMember
  | noItem
  | given (d : Draft)

def memberSlot (members : List (String × Draft)) (key : String) : Option Slot :=
  match members.filter (·.1 == key) with
  | [] => some .noMember
  | [(_, d)] => some (.given d)
  | _ => none

def objectSlots? (fields : List String) : Draft → Option (List Slot)
  | .object members => fields.mapM (memberSlot members)
  | _ => none

def itemSlots : List Draft → List String → List Slot
  | _, [] => []
  | [], _ :: fields => .noItem :: itemSlots [] fields
  | d :: items, _ :: fields => .given d :: itemSlots items fields

def slots? (fields : List String) : Draft → Option (List Slot)
  | .array items => if items.length ≤ fields.length then some (itemSlots items fields) else none
  | d => d.objectSlots? fields

def hasOnly (fields : List String) : Draft → Bool
  | .object members => members.all fun m => fields.contains m.1
  | _ => true

namespace Slot

def required (read : Draft → Option α) : Slot → Option α
  | .given d => read d
  | _ => none

def optional (read : Draft → Option α) : Slot → Option (Option α)
  | .given d => nullable read d
  | .noMember => some none
  | .noItem => none

def omissible (read : Draft → Option α) : Slot → Option (Option α)
  | .given d => nullable read d
  | _ => some none

def withDefault (default : α) (read : Draft → Option α) : Slot → Option α
  | .given d => read d
  | _ => some default

end Slot

end SearchStore.Json.Draft

import SearchStore.Json.Number
import SearchStore.Keyed

/-!
JSON values. Members of an object are kept in the order of their keys; `Json.Canonical` says so for
a value and everything in it.
-/

set_option autoImplicit false

namespace SearchStore

inductive Json where
  | null
  | bool (b : Bool)
  | number (n : Json.Number)
  | string (s : String)
  | array (items : List Json)
  | object (members : List (String × Json))

namespace Json

mutual
def same : Json → Json → Bool
  | .null, .null => true
  | .bool a, .bool b => a == b
  | .number a, .number b => a == b
  | .string a, .string b => a == b
  | .array a, .array b => sameItems a b
  | .object a, .object b => sameMembers a b
  | _, _ => false

def sameItems : List Json → List Json → Bool
  | [], [] => true
  | a :: as, b :: bs => same a b && sameItems as bs
  | _, _ => false

def sameMembers : List (String × Json) → List (String × Json) → Bool
  | [], [] => true
  | (j, a) :: as, (k, b) :: bs => j == k && same a b && sameMembers as bs
  | _, _ => false
end

mutual
theorem same_refl : ∀ v : Json, same v v = true
  | .null => rfl
  | .bool b => by simp [same]
  | .number n => by simp [same]
  | .string s => by simp [same]
  | .array items => by simpa [same] using sameItems_refl items
  | .object members => by simpa [same] using sameMembers_refl members

theorem sameItems_refl : ∀ l : List Json, sameItems l l = true
  | [] => rfl
  | a :: as => by simp [sameItems, same_refl a, sameItems_refl as]

theorem sameMembers_refl : ∀ l : List (String × Json), sameMembers l l = true
  | [] => rfl
  | (k, a) :: as => by simp [sameMembers, same_refl a, sameMembers_refl as]
end

mutual
theorem eq_of_same : ∀ {v w : Json}, same v w = true → v = w
  | .null, w, h => by cases w <;> simp_all [same]
  | .bool b, w, h => by cases w <;> simp_all [same]
  | .number n, w, h => by cases w <;> simp_all [same]
  | .string s, w, h => by cases w <;> simp_all [same]
  | .array a, w, h => by
      cases w <;> simp_all [same]
      exact eq_of_sameItems h
  | .object a, w, h => by
      cases w <;> simp_all [same]
      exact eq_of_sameMembers h

theorem eq_of_sameItems : ∀ {l m : List Json}, sameItems l m = true → l = m
  | [], m, h => by cases m <;> simp_all [sameItems]
  | a :: as, m, h => by
      cases m with
      | nil => simp [sameItems] at h
      | cons b bs =>
          simp only [sameItems, Bool.and_eq_true] at h
          rw [eq_of_same h.1, eq_of_sameItems h.2]

theorem eq_of_sameMembers : ∀ {l m : List (String × Json)}, sameMembers l m = true → l = m
  | [], m, h => by cases m <;> simp_all [sameMembers]
  | (j, a) :: as, m, h => by
      cases m with
      | nil => simp [sameMembers] at h
      | cons b bs =>
          obtain ⟨k, b⟩ := b
          simp only [sameMembers, Bool.and_eq_true, beq_iff_eq] at h
          rw [h.1.1, eq_of_same h.1.2, eq_of_sameMembers h.2]
end

instance : DecidableEq Json := fun v w =>
  if h : same v w = true then .isTrue (eq_of_same h)
  else .isFalse fun e => h (e ▸ same_refl v)

mutual
def Canonical : Json → Prop
  | .array items => CanonicalItems items
  | .object members => Keyed.Ordered members ∧ CanonicalMembers members
  | _ => True

def CanonicalItems : List Json → Prop
  | [] => True
  | v :: rest => Canonical v ∧ CanonicalItems rest

def CanonicalMembers : List (String × Json) → Prop
  | [] => True
  | (_, v) :: rest => Canonical v ∧ CanonicalMembers rest
end

def get? (v : Json) (key : String) : Option Json :=
  match v with
  | .object members => Keyed.find? members key
  | _ => none

def string? : Json → Option String
  | .string s => some s
  | _ => none

def object? : Json → Option (List (String × Json))
  | .object members => some members
  | _ => none

def isNull : Json → Bool
  | .null => true
  | _ => false

def ofMembers (members : List (String × Json)) : Json := .object (Keyed.ofList members)

def ofInt (i : Int) : Json :=
  match Number.ofInt? i with
  | some n => .number n
  | none => .null

def ofNat (n : Nat) : Json := ofInt n

-- A binary number as a double; an overflow has no JSON form but null.
def ofRounded (x : Numeric.Rounded) : Json :=
  match Number.ofRounded? (Numeric.double.convert x) with
  | some n => .number n
  | none => .null

def ofOption {α : Type} (f : α → Json) : Option α → Json
  | some a => f a
  | none => .null

end Json

end SearchStore

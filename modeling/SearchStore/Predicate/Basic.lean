/-!
Compiled queries: a boolean tree over text conditions, which storages evaluate.
-/

set_option autoImplicit false

namespace SearchStore

inductive Occurrence where
  | terms
  | phrase
deriving DecidableEq, Repr

structure TextCondition where
  field : String
  query : String
  mode : Occurrence
  analyzer : Option String
deriving DecidableEq, Repr

inductive Predicate where
  | matchAll
  | text (m : TextCondition)
  -- Holds when all children do, so also without any.
  | and (children : List Predicate)
  | or (children : List Predicate)
deriving Repr

namespace Predicate

mutual
def leaves : Predicate → Nat
  | .matchAll => 1
  | .text _ => 1
  | .and children => leavesOf children
  | .or children => leavesOf children

def leavesOf : List Predicate → Nat
  | [] => 0
  | p :: rest => leaves p + leavesOf rest
end

def isMatchAll : Predicate → Bool
  | .matchAll => true
  | _ => false

mutual
def holds (leaf : TextCondition → Bool) : Predicate → Bool
  | .matchAll => true
  | .text m => leaf m
  | .and children => allHold leaf children
  | .or children => someHolds leaf children

def allHold (leaf : TextCondition → Bool) : List Predicate → Bool
  | [] => true
  | p :: rest => holds leaf p && allHold leaf rest

def someHolds (leaf : TextCondition → Bool) : List Predicate → Bool
  | [] => false
  | p :: rest => holds leaf p || someHolds leaf rest
end

theorem holds_and (leaf : TextCondition → Bool) (children : List Predicate) :
    holds leaf (.and children) = children.all (holds leaf) := by
  rw [holds]
  induction children with
  | nil => rfl
  | cons p rest ih => rw [allHold, List.all_cons, ih]

theorem holds_or (leaf : TextCondition → Bool) (children : List Predicate) :
    holds leaf (.or children) = children.any (holds leaf) := by
  rw [holds]
  induction children with
  | nil => rfl
  | cons p rest ih => rw [someHolds, List.any_cons, ih]

end Predicate

end SearchStore

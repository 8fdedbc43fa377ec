import SearchStore.Text.Percent

/-!
The resources of the interface and the paths they are found under. A literal segment wins over a
name in its place, from the left. A name may be an empty segment unless it is the last one.
-/

set_option autoImplicit false

namespace SearchStore.Rest

inductive Scope (α : Type) where
  | all
  | index (index : α)
  | type (index type : α)
deriving DecidableEq, Repr

inductive Resource (α : Type) where
  | root
  | health
  | bulk (scope : Scope α)
  | search (scope : Scope α)
  | index (index : α)
  | mapping (index type : α)
  | type (index type : α)
  | document (index type id : α)
deriving DecidableEq, Repr

abbrev Segment := List Char

namespace Segment

def bulk : Segment := "_bulk".toList

def search : Segment := "_search".toList

def mapping : Segment := "_mapping".toList

def cluster : Segment := "_cluster".toList

def health : Segment := "health".toList

def split : List Char → List Segment
  | [] => [[]]
  | c :: rest =>
      if c = '/' then [] :: split rest
      else
        match split rest with
        | segment :: later => (c :: segment) :: later
        | [] => [[c]]

end Segment

namespace Resource

def endsPath (c : Char) : Bool := c == '?' || c == '#'

def ofOne (a : Segment) : Option (Resource Segment) :=
  if a = [] then some .root
  else if a = Segment.bulk then some (.bulk .all)
  else if a = Segment.search then some (.search .all)
  else some (.index a)

def ofTwo (a b : Segment) : Option (Resource Segment) :=
  if a = Segment.cluster ∧ b = Segment.health then some .health
  else if b = [] then none
  else if b = Segment.bulk then some (.bulk (.index a))
  else if b = Segment.search then some (.search (.index a))
  else some (.type a b)

def ofThree (a b c : Segment) : Option (Resource Segment) :=
  if c = [] then none
  else if b = Segment.mapping then some (.mapping a c)
  else if c = Segment.bulk then some (.bulk (.type a b))
  else if c = Segment.search then some (.search (.type a b))
  else some (.document a b c)

def ofSegments? : List Segment → Option (Resource Segment)
  | [a] => ofOne a
  | [a, b] => ofTwo a b
  | [a, b, c] => ofThree a b c
  | _ => none

def ofPath? (path : String) : Option (Resource Segment) :=
  match path.toList.takeWhile (!endsPath ·) with
  | '/' :: rest => ofSegments? (Segment.split rest)
  | _ => none

end Resource

def decodeName (noun : String) (s : Segment) : Except String String :=
  match Text.percentDecode s with
  | some name => .ok name
  | none => .error noun

def decodeIndex : Segment → Except String String := decodeName "index"

def decodeType : Segment → Except String String := decodeName "type"

def decodeId : Segment → Except String String := decodeName "id"

def Scope.decode : Scope Segment → Except String (Scope String)
  | .all => .ok .all
  | .index i => .index <$> decodeIndex i
  | .type i t => .type <$> decodeIndex i <*> decodeType t

end SearchStore.Rest

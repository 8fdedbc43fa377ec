import SearchStore.Rest.Exchange
import SearchStore.Rest.Resource

/-!
What a verb asks of a resource. A verb that a resource does not know asks nothing.
-/

set_option autoImplicit false

namespace SearchStore.Rest

inductive Operation (α : Type) where
  | info
  | health
  | bulk (scope : Scope α)
  | search (scope : Scope α)
  | createIndex (index : α)
  | indexExists (index : α)
  | putMapping (index type : α)
  | getMapping (index type : α)
  | createDocument (index type : α)
  | putDocument (index type id : α)
  | getDocument (index type id : α)
  | deleteDocument (index type id : α)
deriving DecidableEq, Repr

namespace Operation

def ofVerb? {α : Type} (verb : Verb) : Resource α → Option (Operation α)
  | .root => if verb = .get then some .info else none
  | .health => if verb = .get then some .health else none
  | .bulk .all => if verb = .get ∨ verb = .post ∨ verb = .put then some (.bulk .all) else none
  | .bulk scope => if verb = .post ∨ verb = .put then some (.bulk scope) else none
  | .search scope => if verb = .get ∨ verb = .post then some (.search scope) else none
  | .index i => if verb = .put then some (.createIndex i) else none
  | .mapping i t =>
      if verb = .put then some (.putMapping i t)
      else if verb = .get then some (.getMapping i t)
      else none
  | .type i t => if verb = .put ∨ verb = .post then some (.createDocument i t) else none
  | .document i t d =>
      if verb = .put ∨ verb = .post then some (.putDocument i t d)
      else if verb = .get then some (.getDocument i t d)
      else if verb = .delete then some (.deleteDocument i t d)
      else none

-- HEAD asks whether an index exists, and of other resources what GET asks.
def of? {α : Type} (verb : Verb) (r : Resource α) : Option (Operation α) :=
  match verb, r with
  | .head, .index i => some (.indexExists i)
  | .head, r => ofVerb? .get r
  | verb, r => ofVerb? verb r

def decode : Operation Segment → Except String (Operation String)
  | .info => .ok .info
  | .health => .ok .health
  | .bulk scope => .bulk <$> scope.decode
  | .search scope => .search <$> scope.decode
  | .createIndex i => .createIndex <$> decodeIndex i
  | .indexExists i => .indexExists <$> decodeIndex i
  | .putMapping i t => .putMapping <$> decodeIndex i <*> decodeType t
  | .getMapping i t => .getMapping <$> decodeIndex i <*> decodeType t
  | .createDocument i t => .createDocument <$> decodeIndex i <*> decodeType t
  | .putDocument i t d => .putDocument <$> decodeIndex i <*> decodeType t <*> decodeId d
  | .getDocument i t d => .getDocument <$> decodeIndex i <*> decodeType t <*> decodeId d
  | .deleteDocument i t d => .deleteDocument <$> decodeIndex i <*> decodeType t <*> decodeId d

end Operation

end SearchStore.Rest

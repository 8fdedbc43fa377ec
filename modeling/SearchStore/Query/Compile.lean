import SearchStore.Failure
import SearchStore.Query.Decode
import SearchStore.Mapping

/-!
Compiling queries to predicates. The mapping of the type supplies the analyzers of fields. Groups of
a boolean query become conjunctions, `should` a disjunction; a group without clauses leaves no
trace, and `must_not` is read as a condition to be met.
-/

set_option autoImplicit false

namespace SearchStore

namespace Query

def leaf (m : Mapping) (mode : Occurrence) (field : String) (q : FieldQuery) : Predicate :=
  .text ⟨field, q.text, mode, m.analyzer? field⟩

def compileFields (m : Mapping) (mode : Occurrence) (fields : Keyed FieldQuery) :
    Except Failure Predicate :=
  match fields.map fun f => leaf m mode f.1 f.2 with
  | [] => .error (.malformedInput .noMatchField)
  | [p] => .ok p
  | ps => .ok (.and ps)

def group (combine : List Predicate → Predicate) (children : List Predicate) : List Predicate :=
  if children.isEmpty then [] else [combine children]

mutual
def compile (m : Mapping) : Query → Except Failure Predicate
  | .matchAll _ => .ok .matchAll
  | .matchFields mode fields => compileFields m mode fields
  | .bool must filter mustNot should _ _ => do
      let must ← compileClauses m must
      let filter ← compileClauses m filter
      let mustNot ← compileClauses m mustNot
      let should ← compileClauses m should
      .ok (.and (group .and must ++ group .and filter ++ group .and mustNot ++ group .or should))

def compileClauses (m : Mapping) : Clauses → Except Failure (List Predicate)
  | .absent => .ok []
  | .single q => do .ok [← compile m q]
  | .many qs => compileAll m qs

def compileAll (m : Mapping) : List Query → Except Failure (List Predicate)
  | [] => .ok []
  | q :: rest => do
      let p ← compile m q
      let later ← compileAll m rest
      .ok (p :: later)
end

def compileJson (v : Json) (m : Mapping) : Except Failure Predicate :=
  match ofJson? v with
  | some q => compile m q
  | none => .error (.malformedInput .query)

end Query

end SearchStore

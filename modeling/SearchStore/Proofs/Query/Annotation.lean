import SearchStore.Predicate.Matching
import SearchStore.Proofs.Sql.Rendering
import SearchStore.Query.Compile

/-!
What a mapping does to a query. A query is compiled to one predicate whatever the mapping is, and the
mapping writes its analyzers at the leaves; it takes no part in whether the query is refused, and none
in which documents are matched without a database.
-/

set_option autoImplicit false

namespace SearchStore

namespace Predicate

mutual
-- The predicate with other analyzers, each given for the field of its leaf.
def annotate (give : String → Option String) : Predicate → Predicate
  | .matchAll => .matchAll
  | .text c => .text { c with analyzer := give c.field }
  | .and children => .and (annotateAll give children)
  | .or children => .or (annotateAll give children)

def annotateAll (give : String → Option String) : List Predicate → List Predicate
  | [] => []
  | p :: rest => annotate give p :: annotateAll give rest
end

def bare (p : Predicate) : Predicate := p.annotate fun _ => none

variable {give later : String → Option String}

theorem annotate_all_map (ps : List Predicate) : annotateAll give ps = ps.map (annotate give) := by
  induction ps with
  | nil => rfl
  | cons p rest ih => rw [annotateAll, ih, List.map_cons]

mutual
theorem annotate_again : ∀ p : Predicate, (p.annotate give).annotate later = p.annotate later
  | .matchAll => rfl
  | .text _ => rfl
  | .and children => by rw [annotate, annotate, annotate, annotate_all_again children]
  | .or children => by rw [annotate, annotate, annotate, annotate_all_again children]

theorem annotate_all_again : ∀ ps : List Predicate, annotateAll later (annotateAll give ps) = annotateAll later ps
  | [] => rfl
  | p :: rest => by rw [annotateAll, annotateAll, annotateAll, annotate_again p, annotate_all_again rest]
end

mutual
theorem annotated_leaves : ∀ p : Predicate, ∀ c ∈ (p.annotate give).conditions, c.analyzer = give c.field
  | .matchAll, c, member => by cases member
  | .text _, c, member => by
      obtain rfl := List.mem_singleton.mp member
      rfl
  | .and children, c, member => annotated_all_leaves children c member
  | .or children, c, member => annotated_all_leaves children c member

theorem annotated_all_leaves : ∀ ps : List Predicate, ∀ c ∈ conditionsOf (annotateAll give ps), c.analyzer = give c.field
  | [], c, member => by cases member
  | p :: rest, c, member => by
      rcases List.mem_append.mp member with here | there
      · exact annotated_leaves p c here
      · exact annotated_all_leaves rest c there
end

mutual
theorem annotated_matches (source : Json) : ∀ p : Predicate, (p.annotate give).matchesSource source = p.matchesSource source
  | .matchAll => rfl
  | .text _ => rfl
  | .and children => annotated_all_match source children
  | .or children => annotated_some_match source children

theorem annotated_all_match (source : Json) : ∀ ps : List Predicate,
    allHold (·.matchesSource source) (annotateAll give ps) = allHold (·.matchesSource source) ps
  | [] => rfl
  | p :: rest => congrArg₂ (· && ·) (annotated_matches source p) (annotated_all_match source rest)

theorem annotated_some_match (source : Json) : ∀ ps : List Predicate,
    someHolds (·.matchesSource source) (annotateAll give ps) = someHolds (·.matchesSource source) ps
  | [] => rfl
  | p :: rest => congrArg₂ (· || ·) (annotated_matches source p) (annotated_some_match source rest)
end

end Predicate

theorem map_bind_map {α β : Type} {translate : α → α} {onward : β → β} {rest other : α → Except Failure β}
    (commutes : ∀ a, other (translate a) = (rest a).map onward) (result : Except Failure α) :
    (result.map translate >>= other) = (result >>= rest).map onward := by
  cases result with
  | error e => rfl
  | ok a => exact commutes a

namespace Query

open Predicate

variable {give : String → Option String}

theorem annotate_group {combine : List Predicate → Predicate}
    (inward : ∀ ps, (combine ps).annotate give = combine (annotateAll give ps)) (children : List Predicate) :
    group combine (annotateAll give children) = annotateAll give (group combine children) := by
  cases children with
  | nil => rfl
  | cons p rest => exact congrArg (fun q => [q]) (inward (p :: rest)).symm

theorem annotate_groups (must filter mustNot should : List Predicate) :
    Predicate.and (group .and (annotateAll give must) ++ group .and (annotateAll give filter) ++
        group .and (annotateAll give mustNot) ++ group .or (annotateAll give should)) =
      (Predicate.and (group .and must ++ group .and filter ++ group .and mustNot ++ group .or should)).annotate give := by
  have conjunctions (children : List Predicate) : group .and (annotateAll give children) = annotateAll give (group .and children) :=
    annotate_group (fun _ => rfl) children
  have disjunction : group .or (annotateAll give should) = annotateAll give (group .or should) :=
    annotate_group (fun _ => rfl) should
  rw [annotate, conjunctions, conjunctions, conjunctions, disjunction]
  simp only [annotate_all_map, List.map_append]

theorem fields_annotated (m other : Mapping) (mode : Occurrence) (fields : Keyed FieldQuery) :
    compileFields other mode fields = (compileFields m mode fields).map (annotate other.analyzer?) := by
  have leaves : (fields.map fun f => leaf other mode f.1 f.2) =
      (fields.map fun f => leaf m mode f.1 f.2).map (annotate other.analyzer?) := by
    rw [List.map_map]
    rfl
  rw [compileFields, compileFields, leaves]
  cases fields.map fun f => leaf m mode f.1 f.2 with
  | nil => rfl
  | cons p rest =>
      cases rest with
      | nil => rfl
      | cons q others => exact congrArg (fun ps => Except.ok (Predicate.and ps)) (annotate_all_map (p :: q :: others)).symm

-- Compiling for another mapping is annotating anew what was compiled for the first.
mutual
theorem compile_annotated (m other : Mapping) : ∀ q, compile other q = (compile m q).map (annotate other.analyzer?)
  | .matchAll _ => rfl
  | .matchFields mode fields => fields_annotated m other mode fields
  | .bool must filter mustNot should _ _ => by
      rw [compile, compile, clauses_annotated m other must, clauses_annotated m other filter,
        clauses_annotated m other mustNot, clauses_annotated m other should]
      refine map_bind_map (fun musts => ?_) _
      refine map_bind_map (fun filters => ?_) _
      refine map_bind_map (fun mustNots => ?_) _
      refine map_bind_map (fun shoulds => ?_) _
      exact congrArg Except.ok (annotate_groups musts filters mustNots shoulds)

theorem clauses_annotated (m other : Mapping) : ∀ c,
    compileClauses other c = (compileClauses m c).map (annotateAll other.analyzer?)
  | .absent => rfl
  | .single q => by
      rw [compileClauses, compileClauses, compile_annotated m other q]
      cases compile m q <;> rfl
  | .many qs => by
      rw [compileClauses, compileClauses]
      exact list_annotated m other qs

theorem list_annotated (m other : Mapping) : ∀ qs, compileAll other qs = (compileAll m qs).map (annotateAll other.analyzer?)
  | [] => rfl
  | q :: rest => by
      rw [compileAll, compileAll, compile_annotated m other q, list_annotated m other rest]
      refine map_bind_map (fun p => ?_) _
      cases compileAll m rest <;> rfl
end

theorem json_annotated (m other : Mapping) (v : Json) :
    compileJson v other = (compileJson v m).map (annotate other.analyzer?) := by
  rw [compileJson, compileJson]
  cases ofJson? v with
  | none => rfl
  | some q => exact compile_annotated m other q

theorem compiled_leaves {m : Mapping} {v : Json} {p : Predicate} (compiled : compileJson v m = .ok p) :
    ∀ c ∈ p.conditions, c.analyzer = m.analyzer? c.field := by
  have annotated := json_annotated m m v
  rw [compiled] at annotated
  have same : p = p.annotate m.analyzer? := Except.ok.inj annotated
  rw [same]
  exact annotated_leaves p

-- Two results of one query: the same refusal, or predicates that differ in their analyzers only, each
-- having those of its own mapping.
inductive SameButAnalyzers (m other : Mapping) : Except Failure Predicate → Except Failure Predicate → Prop where
  | refused (e : Failure) : SameButAnalyzers m other (.error e) (.error e)
  | compiled (p q : Predicate) (same : p.bare = q.bare) (left : ∀ c ∈ p.conditions, c.analyzer = m.analyzer? c.field)
      (right : ∀ c ∈ q.conditions, c.analyzer = other.analyzer? c.field) : SameButAnalyzers m other (.ok p) (.ok q)

theorem json_same_but_analyzers (v : Json) (m other : Mapping) :
    SameButAnalyzers m other (compileJson v m) (compileJson v other) := by
  have annotated := json_annotated m other v
  cases there : compileJson v m with
  | error e =>
      rw [annotated, there]
      exact .refused e
  | ok p =>
      rw [there] at annotated
      rw [annotated]
      exact .compiled p _ (annotate_again p).symm (compiled_leaves there) (compiled_leaves annotated)

end Query

end SearchStore

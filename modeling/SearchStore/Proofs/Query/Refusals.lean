import SearchStore.Proofs.Failures
import SearchStore.Proofs.Query.Annotation

/-!
Queries that are refused. A query is refused as malformed only, and for all mappings alike: what is
known of fields decides about analyzers and nothing else.
-/

set_option autoImplicit false

namespace SearchStore

namespace Query

theorem fields_malformed (m : Mapping) (mode : Occurrence) (fields : Keyed FieldQuery) :
    FailsMalformed (compileFields m mode fields) := by
  rw [compileFields]
  split
  · exact malformed_error _
  · exact malformed_ok _
  · exact malformed_ok _

mutual
theorem compile_malformed (m : Mapping) : ∀ q, FailsMalformed (compile m q)
  | .matchAll _ => malformed_ok _
  | .matchFields mode fields => fields_malformed m mode fields
  | .bool must filter mustNot should _ _ => by
      rw [compile]
      refine malformed_bind (clauses_malformed m must) fun _ => ?_
      refine malformed_bind (clauses_malformed m filter) fun _ => ?_
      refine malformed_bind (clauses_malformed m mustNot) fun _ => ?_
      exact malformed_bind (clauses_malformed m should) fun _ => malformed_ok _

theorem clauses_malformed (m : Mapping) : ∀ c, FailsMalformed (compileClauses m c)
  | .absent => malformed_ok _
  | .single q => by
      rw [compileClauses]
      exact malformed_bind (compile_malformed m q) fun _ => malformed_ok _
  | .many qs => by
      rw [compileClauses]
      exact list_malformed m qs

theorem list_malformed (m : Mapping) : ∀ qs, FailsMalformed (compileAll m qs)
  | [] => malformed_ok _
  | q :: rest => by
      rw [compileAll]
      refine malformed_bind (compile_malformed m q) fun _ => ?_
      exact malformed_bind (list_malformed m rest) fun _ => malformed_ok _
end

theorem compiled_of_json {m : Mapping} {v : Json} {p : Predicate} (compiled : compileJson v m = .ok p) :
    ∃ q, ofJson? v = some q ∧ compile m q = .ok p := by
  rw [compileJson] at compiled
  cases read : ofJson? v with
  | none =>
      rw [read] at compiled
      cases compiled
  | some q =>
      rw [read] at compiled
      exact ⟨q, rfl, compiled⟩

theorem json_malformed (m : Mapping) (v : Json) : FailsMalformed (compileJson v m) := by
  rw [compileJson]
  cases ofJson? v with
  | none => exact malformed_error _
  | some q => exact compile_malformed m q

theorem json_refused {m : Mapping} {v : Json} {e : Failure} (refused : compileJson v m = .error e) (m' : Mapping) :
    compileJson v m' = .error e := by
  rw [json_annotated m m', refused]
  rfl

theorem json_accepted {m : Mapping} {v : Json} {p : Predicate} (accepted : compileJson v m = .ok p) (m' : Mapping) :
    ∃ p', compileJson v m' = .ok p' := by
  rw [json_annotated m m', accepted]
  exact ⟨_, rfl⟩

end Query

end SearchStore

import Mathlib.Data.List.Forall2
import SearchStore.Predicate.Matching
import SearchStore.Proofs.Failures
import SearchStore.Proofs.Query.Reading
import SearchStore.Query.Compile

/-!
What a query says of a document, by recursion on the query. The predicate a query is compiled to
holds of a document exactly when the query does, whatever the mapping says about fields.
-/

set_option autoImplicit false

namespace SearchStore

namespace TextCondition

-- The words asked all occur among those there are, or stand together somewhere in their order.
def Occurs (mode : Occurrence) (asked there : List (List Char)) : Prop :=
  match mode with
  | .terms => ∀ word ∈ asked, word ∈ there
  | .phrase => asked <:+: there

-- The field has words as they are asked, and some are asked.
def Holds (source : Json) (mode : Occurrence) (field text : String) : Prop :=
  ∃ value, source.get? field = some value ∧ Text.words text.toList ≠ [] ∧
    Occurs mode (Text.words text.toList) (wordsOf value)

theorem occurs_iff (phrase there : List (List Char)) : occurs phrase there = true ↔ phrase <:+: there := by
  induction there with
  | nil => simp [occurs]
  | cons word rest ih => rw [occurs, Bool.or_eq_true, ih, List.isPrefixOf_iff_prefix, List.infix_cons_iff]

theorem accepts_iff (mode : Occurrence) (asked there : List (List Char)) :
    accepts mode asked there = true ↔ Occurs mode asked there := by
  cases mode with
  | terms => simp [accepts, Occurs]
  | phrase => exact occurs_iff asked there

theorem matches_iff (m : TextCondition) (source : Json) :
    m.matchesSource source = true ↔ Holds source m.mode m.field m.query := by
  rw [matchesSource, Holds]
  cases found : source.get? m.field with
  | none => simp
  | some value =>
      by_cases wordless : Text.words m.query.toList = []
      · simp [wordless]
      · simp [wordless, accepts_iff]

end TextCondition

namespace Predicate

theorem matches_and (ps : List Predicate) (source : Json) :
    (and ps).matchesSource source = ps.all (·.matchesSource source) := holds_and _ ps

theorem matches_or (ps : List Predicate) (source : Json) :
    (or ps).matchesSource source = ps.any (·.matchesSource source) := holds_or _ ps

end Predicate

variable {m : Mapping} {source : Json}

mutual
def Query.Holds (source : Json) : Query → Prop
  | .matchAll _ => True
  | .matchFields mode fields => ∀ f ∈ fields, TextCondition.Holds source mode f.1 f.2.text
  | .bool must filter mustNot should _ _ =>
      Clauses.AllHold source must ∧ Clauses.AllHold source filter ∧ Clauses.AllHold source mustNot ∧
        (should.toList = [] ∨ Clauses.SomeHolds source should)

def Clauses.AllHold (source : Json) : Clauses → Prop
  | .absent => True
  | .single q => Query.Holds source q
  | .many qs => Query.AllHold source qs

def Clauses.SomeHolds (source : Json) : Clauses → Prop
  | .absent => False
  | .single q => Query.Holds source q
  | .many qs => Query.SomeHolds source qs

def Query.AllHold (source : Json) : List Query → Prop
  | [] => True
  | q :: rest => Query.Holds source q ∧ Query.AllHold source rest

def Query.SomeHolds (source : Json) : List Query → Prop
  | [] => False
  | q :: rest => Query.Holds source q ∨ Query.SomeHolds source rest
end

namespace Query

theorem all_hold_iff (source : Json) (qs : List Query) : AllHold source qs ↔ ∀ q ∈ qs, Holds source q := by
  induction qs with
  | nil => simp [AllHold]
  | cons q rest ih => rw [AllHold, ih, List.forall_mem_cons]

theorem some_holds_iff (source : Json) (qs : List Query) : SomeHolds source qs ↔ ∃ q ∈ qs, Holds source q := by
  induction qs with
  | nil => simp [SomeHolds]
  | cons q rest ih => rw [SomeHolds, ih, List.exists_mem_cons_iff]

end Query

theorem Clauses.all_hold_iff (source : Json) (c : Clauses) :
    AllHold source c ↔ ∀ q ∈ c.toList, Query.Holds source q := by
  cases c with
  | absent => simp [AllHold, toList]
  | single q => simp [AllHold, toList]
  | many qs => exact Query.all_hold_iff source qs

theorem Clauses.some_holds_iff (source : Json) (c : Clauses) :
    SomeHolds source c ↔ ∃ q ∈ c.toList, Query.Holds source q := by
  cases c with
  | absent => simp [SomeHolds, toList]
  | single q => simp [SomeHolds, toList]
  | many qs => exact Query.some_holds_iff source qs

namespace Query

def Rendered (source : Json) (q : Query) (p : Predicate) : Prop := p.matchesSource source = true ↔ q.Holds source

theorem all_rendered {qs : List Query} {ps : List Predicate} (rendered : List.Forall₂ (Rendered source) qs ps) :
    ps.all (·.matchesSource source) = true ↔ ∀ q ∈ qs, Holds source q := by
  induction rendered with
  | nil => simp
  | cons same _ ih =>
      rw [List.all_cons, Bool.and_eq_true, ih, List.forall_mem_cons]
      exact and_congr_left fun _ => same

theorem some_rendered {qs : List Query} {ps : List Predicate} (rendered : List.Forall₂ (Rendered source) qs ps) :
    ps.any (·.matchesSource source) = true ↔ ∃ q ∈ qs, Holds source q := by
  induction rendered with
  | nil => simp
  | cons same _ ih =>
      rw [List.any_cons, Bool.or_eq_true, ih, List.exists_mem_cons_iff]
      exact or_congr_left same

theorem none_rendered {qs : List Query} {ps : List Predicate} (rendered : List.Forall₂ (Rendered source) qs ps) :
    ps = [] ↔ qs = [] := by
  cases rendered with
  | nil => simp
  | cons _ _ => simp

-- An empty group is left out; as a conjunction it would hold all the same.
theorem conjunction_holds (source : Json) (ps : List Predicate) :
    (group .and ps).all (·.matchesSource source) = ps.all (·.matchesSource source) := by
  cases ps with
  | nil => rfl
  | cons p rest => simp [group, Predicate.matches_and]

theorem disjunction_holds (source : Json) (ps : List Predicate) :
    (group .or ps).all (·.matchesSource source) = true ↔ ps = [] ∨ ps.any (·.matchesSource source) = true := by
  cases ps with
  | nil => simp [group]
  | cons p rest => simp [group, Predicate.matches_or]

theorem groups_hold (source : Json) (must filter mustNot should : List Predicate) :
    (Predicate.and (group .and must ++ group .and filter ++ group .and mustNot ++ group .or should)).matchesSource source =
        true ↔
      must.all (·.matchesSource source) = true ∧ filter.all (·.matchesSource source) = true ∧
        mustNot.all (·.matchesSource source) = true ∧
        (should = [] ∨ should.any (·.matchesSource source) = true) := by
  simp only [Predicate.matches_and, List.all_append, Bool.and_eq_true, conjunction_holds, disjunction_holds, and_assoc]

theorem leaf_holds (mode : Occurrence) (field : String) (q : FieldQuery) :
    (leaf m mode field q).matchesSource source = true ↔ TextCondition.Holds source mode field q.text := by
  rw [leaf, Predicate.matchesSource, Predicate.holds, TextCondition.matches_iff]

theorem leaves_hold (mode : Occurrence) (fields : Keyed FieldQuery) :
    (fields.map fun f => leaf m mode f.1 f.2).all (·.matchesSource source) = true ↔
      ∀ f ∈ fields, TextCondition.Holds source mode f.1 f.2.text := by
  simp only [List.all_map, List.all_eq_true, Function.comp_apply, leaf_holds]

theorem fields_rendered {mode : Occurrence} {fields : Keyed FieldQuery} {p : Predicate}
    (compiled : compileFields m mode fields = .ok p) : Rendered source (.matchFields mode fields) p := by
  rw [Rendered, Holds, ← leaves_hold (m := m)]
  rw [compileFields] at compiled
  cases leaves : fields.map fun f => leaf m mode f.1 f.2 with
  | nil =>
      rw [leaves] at compiled
      cases compiled
  | cons first rest =>
      rw [leaves] at compiled
      cases rest with
      | nil =>
          -- A single leaf stands for itself.
          cases compiled
          simp
      | cons second later =>
          cases compiled
          rw [Predicate.matches_and]

mutual
theorem compile_rendered : ∀ (q : Query) {p : Predicate}, compile m q = .ok p → Rendered source q p
  | .matchAll _, p, compiled => by
      cases compiled
      simp [Rendered, Holds, Predicate.matchesSource, Predicate.holds]
  | .matchFields mode fields, p, compiled => fields_rendered compiled
  | .bool must filter mustNot should _ _, p, compiled => by
      rw [compile] at compiled
      obtain ⟨musts, readMust, compiled⟩ := accepted_bind compiled
      obtain ⟨filters, readFilter, compiled⟩ := accepted_bind compiled
      obtain ⟨mustNots, readMustNot, compiled⟩ := accepted_bind compiled
      obtain ⟨shoulds, readShould, compiled⟩ := accepted_bind compiled
      cases compiled
      have required := all_rendered (clauses_rendered must readMust)
      have filtered := all_rendered (clauses_rendered filter readFilter)
      have unwanted := all_rendered (clauses_rendered mustNot readMustNot)
      have wished := clauses_rendered should readShould
      rw [Rendered, groups_hold, Holds, Clauses.all_hold_iff, Clauses.all_hold_iff, Clauses.all_hold_iff,
        Clauses.some_holds_iff, required, filtered, unwanted, some_rendered wished, none_rendered wished]

theorem clauses_rendered : ∀ (c : Clauses) {ps : List Predicate}, compileClauses m c = .ok ps →
    List.Forall₂ (Rendered source) c.toList ps
  | .absent, ps, compiled => by
      cases compiled
      exact .nil
  | .single q, ps, compiled => by
      rw [compileClauses] at compiled
      obtain ⟨p, read, compiled⟩ := accepted_bind compiled
      cases compiled
      exact .cons (compile_rendered q read) .nil
  | .many qs, ps, compiled => by
      rw [compileClauses] at compiled
      exact list_rendered qs compiled

theorem list_rendered : ∀ (qs : List Query) {ps : List Predicate}, compileAll m qs = .ok ps →
    List.Forall₂ (Rendered source) qs ps
  | [], ps, compiled => by
      cases compiled
      exact .nil
  | q :: rest, ps, compiled => by
      rw [compileAll] at compiled
      obtain ⟨p, read, compiled⟩ := accepted_bind compiled
      obtain ⟨later, readLater, compiled⟩ := accepted_bind compiled
      cases compiled
      exact .cons (compile_rendered q read) (list_rendered rest readLater)
end

/-- What is compiled holds of a document exactly when the query does that the value expresses. -/
theorem compiled_query_keeps_meaning (v : Json) (m : Mapping) (p : Predicate) (compiled : compileJson v m = .ok p) :
    ∃ q, ofJson? v = some q ∧ (v.Canonical → Expresses v q) ∧
      ∀ source, p.matchesSource source = true ↔ q.Holds source := by
  rw [compileJson] at compiled
  cases read : ofJson? v with
  | none =>
      rw [read] at compiled
      cases compiled
  | some q =>
      rw [read] at compiled
      exact ⟨q, rfl, fun canonical => value_expresses canonical read, fun source => compile_rendered q compiled⟩

def unwantedWords : Json :=
  .object [("bool", .object [("filter", .object [("bool", .object
    [("must_not", .object [("match", .object [("f", .string "x y")])]), ("should", .array [])])])])]

def unwantedPredicate : Predicate := .and [.and [.and [.and [.text ⟨"f", "x y", .terms, none⟩]]]]

theorem unwanted_words_keep_meaning : compileJson unwantedWords .empty = .ok unwantedPredicate ∧
    ∃ q, ofJson? unwantedWords = some q ∧ Expresses unwantedWords q ∧
      ∀ source, unwantedPredicate.matchesSource source = true ↔ q.Holds source := by
  have compiled : compileJson unwantedWords .empty = .ok unwantedPredicate := by rfl
  have canonical : unwantedWords.Canonical := by
    simp only [unwantedWords, Json.Canonical, Json.CanonicalMembers, Json.CanonicalItems, Keyed.Ordered, and_true]
    decide
  obtain ⟨q, read, expresses, same⟩ := compiled_query_keeps_meaning _ _ _ compiled
  exact ⟨compiled, q, read, expresses canonical, same⟩

end Query

end SearchStore

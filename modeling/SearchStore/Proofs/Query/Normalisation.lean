import SearchStore.Proofs.Numeric.Rounding
import SearchStore.Proofs.Query.Grammar

/-!
Queries written out and read again. Only a boost beyond the finite numbers is not found again: it is
written as null. What is written next and what is compiled are the same.
-/

set_option autoImplicit false

namespace SearchStore

open Json Json.Draft

def keptBoost (boost : Option Numeric.Rounded) : Option Numeric.Rounded := boost.filter fun x => x.finite?.isSome

def FieldQuery.settled : FieldQuery → FieldQuery
  | .plain s => .plain s
  | .detailed s operator boost => .detailed s operator (keptBoost boost)

mutual
def Query.settled : Query → Query
  | .matchAll boost => .matchAll (keptBoost boost)
  | .matchFields mode fields => .matchFields mode (fields.map fun f => (f.1, f.2.settled))
  | .bool must filter mustNot should minimum boost =>
      .bool (Clauses.settled must) (Clauses.settled filter) (Clauses.settled mustNot) (Clauses.settled should) minimum
        (keptBoost boost)

def Clauses.settled : Clauses → Clauses
  | .absent => .absent
  | .single q => .single (Query.settled q)
  | .many qs => .many (Query.allSettled qs)

def Query.allSettled : List Query → List Query
  | [] => []
  | q :: rest => Query.settled q :: Query.allSettled rest
end

theorem kept_boost_json (boost : Option Numeric.Rounded) :
    Json.ofOption Json.ofRounded (keptBoost boost) = Json.ofOption Json.ofRounded boost := by
  match boost with
  | none | some (.finite _) | some (.infinite _) => rfl

theorem FieldQuery.settled_json (f : FieldQuery) : f.settled.toJson = f.toJson := by
  cases f with
  | plain s => rfl
  | detailed s operator boost => rw [settled, toJson, toJson, kept_boost_json]

theorem FieldQuery.settled_text (f : FieldQuery) : f.settled.text = f.text := by
  cases f <;> rfl

namespace Query

mutual
theorem settled_json : ∀ q : Query, q.settled.toJson = q.toJson
  | .matchAll boost => by rw [settled, toJson, toJson, kept_boost_json]
  | .matchFields mode fields => by
      rw [settled, toJson, toJson, List.map_map]
      simp only [Function.comp_def, FieldQuery.settled_json]
  | .bool must filter mustNot should minimum boost => by
      rw [settled, toJson, toJson, clauses_settled_json must, clauses_settled_json filter, clauses_settled_json mustNot,
        clauses_settled_json should, kept_boost_json]

theorem clauses_settled_json : ∀ c : Clauses, c.settled.toJson = c.toJson
  | .absent => rfl
  | .single q => by rw [Clauses.settled, Clauses.toJson, Clauses.toJson, settled_json q]
  | .many qs => by rw [Clauses.settled, Clauses.toJson, Clauses.toJson, all_settled_json qs]

theorem all_settled_json : ∀ qs : List Query, listToJson (allSettled qs) = listToJson qs
  | [] => rfl
  | q :: rest => by rw [allSettled, listToJson, listToJson, settled_json q, all_settled_json rest]
end

theorem settled_fields (m : Mapping) (mode : Occurrence) (fields : Keyed FieldQuery) :
    compileFields m mode (fields.map fun f => (f.1, f.2.settled)) = compileFields m mode fields := by
  have leaves : (fields.map fun f => (f.1, f.2.settled)).map (fun f => leaf m mode f.1 f.2) =
      fields.map fun f => leaf m mode f.1 f.2 := by
    rw [List.map_map]
    simp only [Function.comp_def, leaf, FieldQuery.settled_text]
  rw [compileFields, compileFields, leaves]

mutual
theorem settled_compiled (m : Mapping) : ∀ q : Query, compile m q.settled = compile m q
  | .matchAll _ => rfl
  | .matchFields mode fields => by rw [settled, compile, compile, settled_fields]
  | .bool must filter mustNot should _ _ => by
      rw [settled, compile, compile, clauses_settled_compiled m must, clauses_settled_compiled m filter,
        clauses_settled_compiled m mustNot, clauses_settled_compiled m should]

theorem clauses_settled_compiled (m : Mapping) : ∀ c : Clauses, compileClauses m c.settled = compileClauses m c
  | .absent => rfl
  | .single q => by rw [Clauses.settled, compileClauses, compileClauses, settled_compiled m q]
  | .many qs => by rw [Clauses.settled, compileClauses, compileClauses, all_settled_compiled m qs]

theorem all_settled_compiled (m : Mapping) : ∀ qs : List Query, compileAll m (allSettled qs) = compileAll m qs
  | [] => rfl
  | q :: rest => by rw [allSettled, compileAll, compileAll, settled_compiled m q, all_settled_compiled m rest]
end

end Query

def ProperBoost (boost : Option Numeric.Rounded) : Prop := ∀ b, boost = some (.finite b) → Numeric.single.Holds b

def FieldQuery.Proper : FieldQuery → Prop
  | .plain _ => True
  | .detailed _ _ boost => ProperBoost boost

mutual
def Query.Proper : Query → Prop
  | .matchAll boost => ProperBoost boost
  | .matchFields _ fields => Keyed.Ordered fields ∧ ∀ f ∈ fields, f.2.Proper
  | .bool must filter mustNot should minimum boost =>
      Clauses.Proper must ∧ Clauses.Proper filter ∧ Clauses.Proper mustNot ∧ Clauses.Proper should ∧
        (∀ v ∈ minimum, v.Canonical ∧ v ≠ .null) ∧ ProperBoost boost

def Clauses.Proper : Clauses → Prop
  | .absent => True
  | .single q => Query.Proper q
  | .many qs => Query.AllProper qs

def Query.AllProper : List Query → Prop
  | [] => True
  | q :: rest => Query.Proper q ∧ Query.AllProper rest
end

theorem rounded_holds {f : Numeric.Format} (ordered : f.leastExponent ≤ f.greatestExponent) (precise : 0 < f.precision)
    {n : Json.Number} {b : Numeric.Binary} (rounded : n.rounded f = .finite b) : f.Holds b := by
  cases n with
  | integer i fits => exact Numeric.Format.round_holds ordered precise Nat.one_pos rounded
  | float x => exact Numeric.Format.round_holds ordered precise x.denominator_pos rounded

variable {s : Slot} {boost : Option Numeric.Rounded}

theorem omissible_given {α : Type} {read : Draft → Option α} {a : α} (found : s.omissible read = some (some a)) :
    ∃ d, d ≠ .null ∧ read d = some a := by
  cases s with
  | given d =>
      cases d with
      | null => cases found
      | bool | number | string | array | object | unusable =>
          obtain ⟨a, given, same⟩ := Option.map_eq_some_iff.mp found
          cases same
          refine ⟨_, ?_, given⟩
          nofun
  | noMember | noItem => cases found

theorem boost_proper (found : s.omissible boost? = some boost) : ProperBoost boost := by
  rintro b rfl
  obtain ⟨d, _, read⟩ := omissible_given found
  cases d with
  | number n => exact rounded_holds (by decide) (by decide) (Option.some.inj read)
  | null | bool | string | array | object | unusable => cases read

theorem minimum_proper {minimum : Option Json} (found : s.omissible value? = some minimum) :
    ∀ v ∈ minimum, v.Canonical ∧ v ≠ .null := by
  rintro v rfl
  obtain ⟨d, filled, read⟩ := omissible_given found
  refine ⟨value_canonical read, ?_⟩
  rintro rfl
  cases d with
  | null => exact filled rfl
  | bool | number | string | unusable => cases read
  | array items =>
      obtain ⟨_, _, other⟩ := Option.map_eq_some_iff.mp read
      cases other
  | object members =>
      obtain ⟨_, _, other⟩ := Option.map_eq_some_iff.mp read
      cases other

theorem FieldQuery.read_proper {d : Draft} {f : FieldQuery} (read : ofDraft? d = some f) : f.Proper := by
  rw [ofDraft?] at read
  obtain ⟨_, read⟩ := Option.ite_none_right_eq_some.mp read
  cases alone : scalarText? d with
  | some s =>
      rw [alone] at read
      cases read
      trivial
  | none =>
      rw [alone] at read
      obtain ⟨slots, _, read⟩ := Option.bind_eq_some_iff.mp read
      split at read
      · obtain ⟨text, _, read⟩ := Option.bind_eq_some_iff.mp read
        obtain ⟨operator, _, read⟩ := Option.bind_eq_some_iff.mp read
        obtain ⟨boost, readBoost, read⟩ := Option.bind_eq_some_iff.mp read
        cases read
        exact boost_proper readBoost
      · cases read

namespace Query

theorem all_proper_iff {qs : List Query} : AllProper qs ↔ ∀ q ∈ qs, q.Proper := by
  induction qs with
  | nil => simp [AllProper]
  | cons q rest ih => simp [AllProper, ih]

theorem clauses_proper {read : Draft → Option Query} {c : Clauses} (reads : ∀ d q, read d = some q → q.Proper)
    (found : Clauses.ofSlot? read s = some c) : c.Proper := by
  obtain ⟨given, held, rfl⟩ := Option.map_eq_some_iff.mp found
  cases given with
  | none => trivial
  | some c =>
      obtain ⟨d, _, here⟩ := omissible_given held
      rw [Clauses.ofDraft?] at here
      obtain ⟨_, here⟩ := Option.ite_none_right_eq_some.mp here
      cases single : read d with
      | some q =>
          rw [single] at here
          cases here
          exact reads d q single
      | none =>
          rw [single] at here
          obtain ⟨qs, each, rfl⟩ := Option.map_eq_some_iff.mp here
          exact all_proper_iff.mpr (list_good each reads)

theorem bool_proper {read : Draft → Option Query} {d : Draft} {q : Query} (reads : ∀ d q, read d = some q → q.Proper)
    (found : boolOfDraft? read d = some q) : q.Proper := by
  obtain ⟨_, _, found⟩ := Option.bind_eq_some_iff.mp found
  obtain ⟨slots, _, found⟩ := Option.bind_eq_some_iff.mp found
  split at found
  · simp only [Option.bind_eq_bind, Option.bind_eq_some_iff] at found
    obtain ⟨a, must, b, filter, c, mustNot, d, should, v, minimum, x, boost, made⟩ := found
    cases made
    exact ⟨clauses_proper reads must, clauses_proper reads filter, clauses_proper reads mustNot,
      clauses_proper reads should, minimum_proper minimum, boost_proper boost⟩
  · cases found

theorem match_all_proper {d : Draft} {q : Query} (found : matchAllOfDraft? d = some q) : q.Proper := by
  obtain ⟨slots, _, found⟩ := Option.bind_eq_some_iff.mp found
  split at found
  · obtain ⟨boost, readBoost, found⟩ := Option.bind_eq_some_iff.mp found
    cases found
    exact boost_proper readBoost
  · cases found

theorem match_fields_proper {mode : Occurrence} {d : Draft} {q : Query}
    (found : (d.keyed? FieldQuery.ofDraft?).map (.matchFields mode) = some q) : q.Proper := by
  obtain ⟨fields, each, rfl⟩ := Option.map_eq_some_iff.mp found
  exact keyed_good each fun _ _ => FieldQuery.read_proper

theorem read_proper (n : Nat) : ∀ d q, ofDraftWithin n d = some q → q.Proper := by
  induction n with
  | zero => nofun
  | succ n ih =>
      intro d q read
      obtain ⟨⟨kind, content⟩, _, read⟩ := Option.bind_eq_some_iff.mp read
      simp only at read
      split at read
      · exact match_all_proper read
      · split at read
        · exact match_fields_proper read
        · split at read
          · exact match_fields_proper read
          · split at read
            · exact bool_proper ih read
            · cases read

end Query

theorem boost_reread (proper : ProperBoost boost) :
    (Slot.given (ofValue (Json.ofOption Json.ofRounded boost))).omissible boost? = some (keptBoost boost) := by
  match boost with
  | none => rfl
  | some (.infinite _) => rfl
  | some (.finite b) =>
      obtain ⟨c, wide, back⟩ := Numeric.Format.single_restored (proper b rfl)
      have written : Json.ofRounded (.finite b) = .number (.float c) := by
        rw [Json.ofRounded, wide]
        rfl
      have read : (Json.Number.float c).rounded Numeric.single = .finite b := back
      rw [Json.ofOption, written]
      exact congrArg (fun x => some (some x)) read

theorem minimum_reread {minimum : Option Json} (proper : ∀ v ∈ minimum, v.Canonical ∧ v ≠ .null) :
    (Slot.given (ofValue (Json.ofOption id minimum))).omissible value? = some minimum := by
  cases minimum with
  | none => rfl
  | some v =>
      obtain ⟨canonical, filled⟩ := proper v rfl
      rw [Json.ofOption, id, Slot.omissible, nullable_value _ filled, value_of_draft canonical]
      rfl

theorem boost_canonical (boost : Option Numeric.Rounded) : (Json.ofOption Json.ofRounded boost).Canonical := by
  cases boost with
  | none => trivial
  | some x =>
      rw [Json.ofOption, Json.ofRounded]
      split <;> trivial

theorem FieldQuery.json_canonical (f : FieldQuery) : f.toJson.Canonical := by
  cases f with
  | plain s => trivial
  | detailed s operator boost =>
      refine of_members_canonical ⟨trivial, ?_, boost_canonical boost, trivial⟩
      cases operator <;> trivial

theorem FieldQuery.reread {f : FieldQuery} (proper : f.Proper) : ofDraft? (ofValue f.toJson) = some f.settled := by
  rw [ofDraft?, if_pos (usable_of_canonical f.json_canonical)]
  cases f with
  | plain s => rfl
  | detailed s operator boost =>
      have operatorRead : (Slot.given (ofValue (Json.ofOption .string operator))).omissible string? = some operator := by
        cases operator <;> rfl
      change detailed? (ofValue (Json.ofMembers _)) = _
      rw [detailed?, written_slots ["query", "operator", "boost"] (by decide) rfl]
      simp only [List.map, Keyed.find?, String.reduceEq, ↓reduceIte, Slot.holding, Slot.required, operatorRead,
        boost_reread proper, Option.bind_eq_bind, Option.bind_some]
      rfl

mutual
theorem Query.json_canonical : ∀ {q : Query}, q.Proper → q.toJson.Canonical
  | .matchAll boost, _ => by
      refine ⟨List.pairwise_singleton .., ?_, trivial⟩
      exact of_members_canonical ⟨boost_canonical boost, trivial⟩
  | .matchFields mode fields, _ => by
      refine ⟨List.pairwise_singleton .., of_members_canonical ?_, trivial⟩
      refine canonical_members.mpr fun e member => ?_
      obtain ⟨f, _, rfl⟩ := List.mem_map.mp member
      exact f.2.json_canonical
  | .bool must filter mustNot should minimum boost, proper => by
      obtain ⟨properMust, properFilter, properMustNot, properShould, minimal, _⟩ := proper
      refine ⟨List.pairwise_singleton .., of_members_canonical ⟨Clauses.json_canonical properMust,
        Clauses.json_canonical properFilter, Clauses.json_canonical properMustNot, Clauses.json_canonical properShould, ?_,
        boost_canonical boost, trivial⟩, trivial⟩
      cases minimum with
      | none => trivial
      | some v => exact (minimal v rfl).1

theorem Clauses.json_canonical : ∀ {c : Clauses}, c.Proper → c.toJson.Canonical
  | .absent, _ => trivial
  | .single q, proper => by
      rw [Clauses.toJson]
      exact Query.json_canonical proper
  | .many qs, proper => by
      rw [Clauses.toJson]
      exact Query.all_json_canonical proper

theorem Query.all_json_canonical : ∀ {qs : List Query}, Query.AllProper qs → CanonicalItems (Query.listToJson qs)
  | [], _ => trivial
  | _ :: _, proper => ⟨Query.json_canonical proper.1, Query.all_json_canonical proper.2⟩
end

namespace Query

theorem fields_reread {fields : Keyed FieldQuery} (ordered : Keyed.Ordered fields) (proper : ∀ f ∈ fields, f.2.Proper) :
    (ofValue (Json.ofMembers (fields.map fun f => (f.1, f.2.toJson)))).keyed? FieldQuery.ofDraft? =
      some (fields.map fun f => (f.1, f.2.settled)) := by
  have written : Keyed.Ordered (fields.map fun f => (f.1, f.2.toJson)) := List.pairwise_map.mpr ordered
  rw [Json.ofMembers, Keyed.ofList_of_ordered written, keyed_read written, List.forall₂_map_left_iff,
    List.forall₂_map_right_iff, List.forall₂_same]
  exact fun f member => ⟨rfl, FieldQuery.reread (proper f member)⟩

-- A single query is looked for first; an array is never one.
theorem given_clauses {read : Draft → Option Query} {v : Json} (canonical : v.Canonical) (filled : v ≠ .null) :
    Clauses.ofSlot? read (.given (ofValue v)) =
      match read (ofValue v) with
      | some q => some (.single q)
      | none => ((ofValue v).list? read).map .many := by
  rw [Clauses.ofSlot?, Slot.omissible, nullable_value _ filled, Clauses.ofDraft?,
    if_pos (usable_of_canonical canonical), Option.map_map]
  exact Option.map_id'

theorem json_filled (q : Query) : q.toJson ≠ .null := by
  cases q <;> nofun

def boolMembers (must filter mustNot should minimum boost : Json) : List (String × Json) :=
  [("must", must), ("filter", filter), ("must_not", mustNot), ("should", should),
    ("minimum_should_match", minimum), ("boost", boost)]

theorem bool_members_apart (must filter mustNot should minimum boost : Json) :
    (Keyed.keys (boolMembers must filter mustNot should minimum boost)).Nodup := by
  have apart : boolFields.Nodup := by decide
  exact apart

theorem written_bool (read : Draft → Option Query) (must filter mustNot should minimum boost : Json) :
    boolOfDraft? read (ofValue (Json.ofMembers (boolMembers must filter mustNot should minimum boost))) =
      (do some (.bool (← Clauses.ofSlot? read (.given (ofValue must))) (← Clauses.ofSlot? read (.given (ofValue filter)))
        (← Clauses.ofSlot? read (.given (ofValue mustNot))) (← Clauses.ofSlot? read (.given (ofValue should)))
        (← (Slot.given (ofValue minimum)).omissible value?) (← (Slot.given (ofValue boost)).omissible boost?))) := by
  have known : (ofValue (Json.ofMembers (boolMembers must filter mustNot should minimum boost))).hasOnly boolFields =
      true := by
    refine (only_entries (.named _)).mpr fun e member => ?_
    exact List.mem_map.mpr ⟨e, Keyed.mem_of_list member, rfl⟩
  have slots : (ofValue (Json.ofMembers (boolMembers must filter mustNot should minimum boost))).slots? boolFields =
      _ := written_slots boolFields (by decide) rfl
  rw [bool_of_slots read slots, if_pos known]
  rfl

mutual
theorem query_reread : ∀ {q : Query}, q.Proper → ∀ {n : Nat}, (ofValue q.toJson).depth ≤ n →
    ofDraftWithin n (ofValue q.toJson) = some q.settled
  | q, _, 0, shallow => absurd (depth_pos _) (Nat.not_lt.mpr shallow)
  | .matchAll boost, proper, n + 1, shallow => by
      rw [toJson, tagged_read, if_pos rfl, matchAllOfDraft?]
      change ((ofValue (Json.ofMembers [("boost", _)])).objectSlots? ["boost"] >>= _) = _
      rw [written_slots ["boost"] (by decide) rfl]
      simp only [List.map, Keyed.find?, ↓reduceIte, Slot.holding, boost_reread proper, Option.bind_eq_bind,
        Option.bind_some]
      rfl
  | .matchFields .terms fields, proper, n + 1, shallow => by
      rw [toJson, matchKey, tagged_read, if_neg (by decide), if_pos rfl, fields_reread proper.1 proper.2]
      rfl
  | .matchFields .phrase fields, proper, n + 1, shallow => by
      rw [toJson, matchKey, tagged_read, if_neg (by decide), if_neg (by decide), if_pos rfl,
        fields_reread proper.1 proper.2]
      rfl
  | .bool must filter mustNot should minimum boost, proper, n + 1, shallow => by
      rw [toJson] at shallow ⊢
      have inner := content_depth shallow
      have deeper (key : String) {v : Json}
          (found : Keyed.find? (boolMembers must.toJson filter.toJson mustNot.toJson should.toJson
            (Json.ofOption id minimum) (Json.ofOption Json.ofRounded boost)) key = some v) : (ofValue v).depth ≤ n :=
        Nat.le_trans (Nat.le_of_lt (written_depth (bool_members_apart ..) found)) inner
      obtain ⟨properMust, properFilter, properMustNot, properShould, minimal, finite⟩ := proper
      rw [tagged_read, if_neg (by decide), if_neg (by decide), if_neg (by decide), if_pos rfl]
      change boolOfDraft? _ (ofValue (Json.ofMembers (boolMembers ..))) = _
      rw [written_bool, clauses_reread properMust (deeper "must" rfl), clauses_reread properFilter (deeper "filter" rfl),
        clauses_reread properMustNot (deeper "must_not" rfl), clauses_reread properShould (deeper "should" rfl),
        minimum_reread minimal, boost_reread finite]
      rfl

theorem clauses_reread : ∀ {c : Clauses}, c.Proper → ∀ {n : Nat}, (ofValue c.toJson).depth ≤ n →
    Clauses.ofSlot? (ofDraftWithin n) (.given (ofValue c.toJson)) = some c.settled
  | .absent, _, _, _ => rfl
  | .single q, proper, n, shallow => by
      rw [Clauses.toJson] at shallow ⊢
      rw [given_clauses (Query.json_canonical proper) (json_filled q), query_reread proper shallow]
      rfl
  | .many qs, proper, n, shallow => by
      rw [Clauses.toJson] at shallow ⊢
      have each := list_reread proper fun v member => Nat.le_trans (Nat.le_of_lt (item_depth member)) shallow
      have canonical : (Json.array (listToJson qs)).Canonical := Query.all_json_canonical proper
      rw [given_clauses canonical nofun, list_read.mpr each, ofValue, array_unread]
      rfl

theorem list_reread : ∀ {qs : List Query}, AllProper qs → ∀ {n : Nat}, (∀ v ∈ listToJson qs, (ofValue v).depth ≤ n) →
    List.Forall₂ (fun v q => ofDraftWithin n (ofValue v) = some q) (listToJson qs) (allSettled qs)
  | [], _, _, _ => .nil
  | _ :: _, proper, _, shallow => by
      obtain ⟨first, later⟩ := List.forall_mem_cons.mp shallow
      exact .cons (query_reread proper.1 first) (list_reread proper.2 later)
end

theorem settled_read {v : Json} {q : Query} (read : ofJson? v = some q) : ofJson? q.toJson = some q.settled :=
  query_reread (read_proper _ _ _ read) (Nat.le_refl _)

/-- A query that is written again is read as itself: it has the same text, and compiles to the same under every mapping. -/
theorem normalised_query_same (v : Json) (q : Query) (read : ofJson? v = some q) :
    ∃ q', ofJson? q.toJson = some q' ∧ q'.toJson = q.toJson ∧ ∀ m, compileJson q.toJson m = compileJson v m := by
  have again := settled_read read
  refine ⟨q.settled, again, settled_json q, fun m => ?_⟩
  rw [compileJson, compileJson, read, again]
  exact settled_compiled m q

def looseQuery : Json :=
  .object [("bool", .array [.object [("match_all", .array [.number (.float ⟨false, 2 ^ 52, 100⟩)])], .null,
    .array [.object [("match", .object [("f", .bool true), ("g", .object [("boost", .number (.integer 2 (by decide))),
      ("query", .number (.integer (-5) (by decide)))])])]]])]

def looseRead : Query :=
  .bool (.single (.matchAll (some (.infinite false)))) .absent
    (.many [.matchFields .terms [("f", .plain "true"),
      ("g", .detailed "-5" none (some (.finite ⟨false, 2 ^ 23, -22⟩)))]]) .absent none none

theorem loose_query_normalised : ofJson? looseQuery = some looseRead ∧ ∃ q', ofJson? looseRead.toJson = some q' ∧
    q'.toJson = looseRead.toJson ∧ ∀ m, compileJson looseRead.toJson m = compileJson looseQuery m := by
  have read : ofJson? looseQuery = some looseRead := by rfl
  exact ⟨read, normalised_query_same looseQuery looseRead read⟩

end Query

end SearchStore

import SearchStore.Proofs.Query.Grammar

/-!
What a query holds of the value it is read from. The fields of a match keep their names and the texts
that are asked of them; each group of a boolean query has the queries that stand under its name, in
their order.
-/

set_option autoImplicit false

namespace SearchStore

open Json Json.Draft

namespace Query

inductive TextOf : Json → String → Prop where
  | string (s : String) : TextOf (.string s) s
  | number (n : Json.Number) : TextOf (.number n) (String.ofList n.print)
  | bool (b : Bool) : TextOf (.bool b) (if b then "true" else "false")

inductive Asks : Json → String → Prop where
  | plain {v : Json} {s : String} (text : TextOf v s) : Asks v s
  | detailed {members : List (String × Json)} {w : Json} {s : String}
      (found : Keyed.find? members "query" = some w) (text : TextOf w s) : Asks (.object members) s

inductive Gathers (R : Json → Query → Prop) : Option Json → Clauses → Prop where
  | missing : Gathers R none .absent
  | null : Gathers R (some .null) .absent
  | single {v : Json} {q : Query} (query : R v q) : Gathers R (some v) (.single q)
  | many {items : List Json} {qs : List Query} (queries : List.Forall₂ R items qs) :
      Gathers R (some (.array items)) (.many qs)

-- The value is a query of this form, on these fields and texts and made up of these queries. Boosts
-- and the number of alternatives that have to match are left open, as nothing depends on them.
inductive Expresses : Json → Query → Prop where
  | matchAll (content : Json) (boost : Option Numeric.Rounded) :
      Expresses (.object [("match_all", content)]) (.matchAll boost)
  | matchFields (mode : Occurrence) {members : List (String × Json)} {fields : Keyed FieldQuery}
      (same : List.Forall₂ (fun e f => f.1 = e.1 ∧ Asks e.2 f.2.text) members fields) :
      Expresses (.object [(matchKey mode, .object members)]) (.matchFields mode fields)
  | bool {content : Json} {members : List (String × Json)} {must filter mustNot should : Clauses}
      (minimum : Option Json) (boost : Option Numeric.Rounded) (entries : Entries boolFields content members)
      (allOf : Gathers Expresses (Keyed.find? members "must") must)
      (filters : Gathers Expresses (Keyed.find? members "filter") filter)
      (noneOf : Gathers Expresses (Keyed.find? members "must_not") mustNot)
      (someOf : Gathers Expresses (Keyed.find? members "should") should) :
      Expresses (.object [("bool", content)]) (.bool must filter mustNot should minimum boost)

variable {v w content : Json} {q : Query} {s : String} {n : Nat}

theorem scalar_text (read : scalarText? (ofValue v) = some s) : TextOf v s := by
  cases v with
  | string s =>
      cases read
      exact .string s
  | number n =>
      cases read
      exact .number n
  | bool b =>
      cases read
      rw [printBool, String.ofList_toList]
      exact .bool b
  | null | array | object => cases read

theorem field_asks {f : FieldQuery} (canonical : v.Canonical) (read : FieldQuery.ofDraft? (ofValue v) = some f) :
    Asks v f.text := by
  rw [FieldQuery.ofDraft?, if_pos (usable_of_canonical canonical)] at read
  cases alone : scalarText? (ofValue v) with
  | some s =>
      rw [alone] at read
      cases read
      exact .plain (scalar_text alone)
  | none =>
      rw [alone] at read
      cases v with
      | object members =>
          dsimp only at read
          rw [FieldQuery.detailed?, object_slots _ canonical.1] at read
          simp only [List.map, Option.bind_eq_bind, Option.bind_some, Option.bind_eq_some_iff] at read
          obtain ⟨s, text, _, _, _, _, made⟩ := read
          cases made
          cases found : Keyed.find? members "query" with
          | none =>
              rw [found] at text
              cases text
          | some w =>
              rw [found] at text
              exact .detailed found (scalar_text text)
      | null | bool | number | string | array => cases read

theorem fields_expressed (mode : Occurrence) (canonical : content.Canonical)
    (read : ((ofValue content).keyed? FieldQuery.ofDraft?).map (Query.matchFields mode) = some q) :
    Expresses (.object [(matchKey mode, content)]) q := by
  obtain ⟨fields, readFields, rfl⟩ := Option.map_eq_some_iff.mp read
  cases content with
  | object members =>
      have each := (keyed_read canonical.1).mp readFields
      refine .matchFields mode (List.forall₂_iff_get.mpr ⟨each.length_eq, fun i inside inside' => ?_⟩)
      obtain ⟨key, readOne⟩ := each.get inside inside'
      exact ⟨key, field_asks (canonical_members.mp canonical.2 _ (List.get_mem ..)) readOne⟩
  | null | bool | number | string | array => cases readFields

def Faithful (n : Nat) : Prop :=
  ∀ (v : Json) (q : Query), v.Canonical → ofDraftWithin n (ofValue v) = some q → Expresses v q

theorem group_gathers (faithful : Faithful n) {absent : Slot} (vacant : absent.Vacant) {value : Option Json}
    (inside : ∀ w ∈ value, w.Canonical) {c : Clauses}
    (read : Clauses.ofSlot? (ofDraftWithin n) (absent.holding ofValue value) = some c) : Gathers Expresses value c := by
  cases value with
  | none =>
      cases absent with
      | given d => exact absurd rfl (vacant d)
      | noMember | noItem =>
          cases read
          exact .missing
  | some v =>
      have canonical : v.Canonical := inside v rfl
      by_cases null : v = .null
      · subst null
        cases read
        exact .null
      · rw [Slot.holding, Clauses.ofSlot?, Slot.omissible, nullable_value _ null, Clauses.ofDraft?,
          if_pos (usable_of_canonical canonical)] at read
        cases single : ofDraftWithin n (ofValue v) with
        | some q =>
            rw [single] at read
            cases read
            exact .single (faithful v q canonical single)
        | none =>
            rw [single] at read
            cases v with
            | array items =>
                dsimp only at read
                cases readAll : (ofValue (.array items)).list? (ofDraftWithin n) with
                | none =>
                    rw [readAll] at read
                    cases read
                | some qs =>
                    rw [readAll] at read
                    cases read
                    have each := list_read.mp readAll
                    refine .many (List.forall₂_iff_get.mpr ⟨each.length_eq, fun i inside inside' => ?_⟩)
                    exact faithful _ _ (canonical_items.mp canonical _ (List.get_mem ..)) (each.get inside inside')
            | null | bool | number | string | object => cases read

theorem bool_expressed (faithful : Faithful n) (canonical : content.Canonical)
    (read : boolOfDraft? (ofDraftWithin n) (ofValue content) = some q) : Expresses (.object [("bool", content)]) q := by
  obtain ⟨_, _, taken⟩ := Option.bind_eq_some_iff.mp read
  obtain ⟨slots, found, _⟩ := Option.bind_eq_some_iff.mp taken
  obtain ⟨members, entries⟩ := entries_of_slots found
  obtain ⟨absent, vacant, held⟩ := slots_of_entries (by decide) canonical entries
  rw [bool_of_slots _ held] at read
  obtain ⟨_, assembled⟩ := Option.ite_none_right_eq_some.mp read
  have inside (key : String) (w : Json) (found : w ∈ Keyed.find? members key) : w.Canonical :=
    entry_canonical canonical entries (Keyed.mem_of_find found)
  simp only [boolOfSlots?, Option.bind_eq_bind, Option.bind_eq_some_iff] at assembled
  obtain ⟨must, readMust, filter, readFilter, mustNot, readNot, should, readShould, minimum, _, boost, _, made⟩ := assembled
  cases made
  exact .bool minimum boost entries (group_gathers faithful vacant (inside _) readMust)
    (group_gathers faithful vacant (inside _) readFilter) (group_gathers faithful vacant (inside _) readNot)
    (group_gathers faithful vacant (inside _) readShould)

theorem faithful_within (n : Nat) : Faithful n := by
  induction n with
  | zero => exact fun _ _ _ read => nomatch read
  | succ n ih =>
      intro v q canonical read
      by_cases tagged : ∃ kind content, v = .object [(kind, content)]
      · obtain ⟨kind, content, rfl⟩ := tagged
        have inner : content.Canonical := canonical.2.1
        rw [tagged_read] at read
        split_ifs at read with all terms phrase bool
        · subst all
          obtain ⟨slots, found, read⟩ := Option.bind_eq_some_iff.mp read
          obtain ⟨members, entries⟩ := entries_of_slots found
          obtain ⟨absent, vacant, held⟩ := slots_of_entries (by decide) inner entries
          cases held.symm.trans found
          obtain ⟨boost, _, made⟩ := Option.bind_eq_some_iff.mp read
          cases made
          exact .matchAll content boost
        · subst terms
          exact fields_expressed .terms inner read
        · subst phrase
          exact fields_expressed .phrase inner read
        · subst bool
          exact bool_expressed ih inner read
      · have other : ∀ kind content, v ≠ .object [(kind, content)] := fun kind content same => tagged ⟨kind, content, same⟩
        rw [untagged_unread _ other] at read
        cases read

/-- The query that is read of a value is the one the value expresses. -/
theorem value_expresses (canonical : v.Canonical) (read : ofJson? v = some q) : Expresses v q :=
  faithful_within _ v q canonical read

end Query

end SearchStore

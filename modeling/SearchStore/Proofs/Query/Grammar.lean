import SearchStore.Proofs.Json.Records
import SearchStore.Proofs.Query.Refusals
import SearchStore.Query.Encode

/-!
The grammar of queries. A value that follows it is read, and no other; it is compiled if moreover each
part of it that matches fields has some.
-/

set_option autoImplicit false

namespace SearchStore

open Json Json.Draft

namespace Query

/-! The grammar -/

inductive Scalar : Json → Prop where
  | string (s : String) : Scalar (.string s)
  | number (n : Json.Number) : Scalar (.number n)
  | bool (b : Bool) : Scalar (.bool b)

inductive Boost : Json → Prop where
  | null : Boost .null
  | number (n : Json.Number) : Boost (.number n)

inductive Operator : Json → Prop where
  | null : Operator .null
  | string (s : String) : Operator (.string s)

inductive Asked : Json → Prop where
  | plain {v : Json} (scalar : Scalar v) : Asked v
  | detailed {members : List (String × Json)} (text : ∃ w ∈ Keyed.find? members "query", Scalar w)
      (operator : ∀ w ∈ Keyed.find? members "operator", Operator w)
      (boost : ∀ w ∈ Keyed.find? members "boost", Boost w) : Asked (.object members)

inductive Group (P : Json → Prop) : Json → Prop where
  | absent : Group P .null
  | single {v : Json} (query : P v) : Group P v
  | many {items : List Json} (queries : ∀ v ∈ items, P v) : Group P (.array items)

def groupFields : List String := ["must", "filter", "must_not", "should"]

-- A query in which fields are matched so many at a time, or more.
inductive Grammatical (least : Nat) : Json → Prop where
  | matchAll {content : Json} {members : List (String × Json)} (entries : Entries ["boost"] content members)
      (boost : ∀ w ∈ Keyed.find? members "boost", Boost w) : Grammatical least (.object [("match_all", content)])
  | matchFields (mode : Occurrence) {fields : List (String × Json)} (enough : least ≤ fields.length)
      (asked : ∀ f ∈ fields, Asked f.2) : Grammatical least (.object [(matchKey mode, .object fields)])
  | bool {content : Json} {members : List (String × Json)} (entries : Entries boolFields content members)
      (known : ∀ e ∈ members, e.1 ∈ boolFields)
      (groups : ∀ key ∈ groupFields, ∀ w ∈ Keyed.find? members key, Group (Grammatical least) w)
      (boost : ∀ w ∈ Keyed.find? members "boost", Boost w) : Grammatical least (.object [("bool", content)])

/-! Queries that match fields so many at a time -/

end Query

mutual
def Query.Filled (least : Nat) : Query → Prop
  | .matchAll _ => True
  | .matchFields _ fields => least ≤ fields.length
  | .bool must filter mustNot should _ _ =>
      Clauses.Filled least must ∧ Clauses.Filled least filter ∧ Clauses.Filled least mustNot ∧ Clauses.Filled least should

def Clauses.Filled (least : Nat) : Clauses → Prop
  | .absent => True
  | .single q => Query.Filled least q
  | .many qs => Query.AllFilled least qs

def Query.AllFilled (least : Nat) : List Query → Prop
  | [] => True
  | q :: rest => Query.Filled least q ∧ Query.AllFilled least rest
end

namespace Query

variable {least : Nat} {m : Mapping} {v w content : Json} {members : List (String × Json)}

theorem all_filled_iff {qs : List Query} : AllFilled least qs ↔ ∀ q ∈ qs, q.Filled least := by
  induction qs with
  | nil => simp [AllFilled]
  | cons q rest ih => simp [AllFilled, ih]

mutual
theorem filled_zero : ∀ q : Query, q.Filled 0
  | .matchAll _ => trivial
  | .matchFields _ _ => Nat.zero_le _
  | .bool must filter mustNot should _ _ =>
      ⟨clauses_filled_zero must, clauses_filled_zero filter, clauses_filled_zero mustNot, clauses_filled_zero should⟩

theorem clauses_filled_zero : ∀ c : Clauses, c.Filled 0
  | .absent => trivial
  | .single q => filled_zero q
  | .many qs => all_filled_zero qs

theorem all_filled_zero : ∀ qs : List Query, AllFilled 0 qs
  | [] => trivial
  | q :: rest => ⟨filled_zero q, all_filled_zero rest⟩
end

inductive Decided {α : Type} (P : Prop) : Except Failure α → Prop where
  | accepted (a : α) (holds : P) : Decided P (.ok a)
  | refused (fails : ¬ P) : Decided P (.error (.malformedInput .noMatchField))

theorem decided_bind {α β : Type} {P Q : Prop} {first : Except Failure α} {rest : α → Except Failure β}
    (left : Decided P first) (right : ∀ a, Decided Q (rest a)) : Decided (P ∧ Q) (first >>= rest) := by
  cases left with
  | accepted a holds =>
      have next := right a
      change Decided (P ∧ Q) (rest a)
      cases found : rest a with
      | ok b =>
          rw [found] at next
          cases next with
          | accepted _ also => exact .accepted b ⟨holds, also⟩
      | error e =>
          rw [found] at next
          cases next with
          | refused fails => exact .refused fun both => fails both.2
  | refused fails => exact .refused fun both => fails both.1

theorem decided_map {α β : Type} {P : Prop} {first : Except Failure α} (left : Decided P first) (f : α → β) :
    Decided P (do .ok (f (← first))) := by
  cases left with
  | accepted a holds => exact .accepted (f a) holds
  | refused fails => exact .refused fails

theorem decided_ok {α : Type} (a : α) : Decided True (.ok a : Except Failure α) := .accepted a trivial

theorem fields_decided (m : Mapping) (mode : Occurrence) (fields : Keyed FieldQuery) :
    Decided (1 ≤ fields.length) (compileFields m mode fields) := by
  match fields with
  | [] => exact .refused (Nat.not_succ_le_zero 0)
  | [_] => exact .accepted _ (Nat.le_refl 1)
  | _ :: _ :: _ => exact .accepted _ (Nat.succ_le_succ (Nat.zero_le _))

mutual
theorem compile_decided (m : Mapping) : ∀ q : Query, Decided (q.Filled 1) (compile m q)
  | .matchAll _ => decided_ok _
  | .matchFields mode fields => fields_decided m mode fields
  | .bool must filter mustNot should _ _ => by
      rw [compile]
      refine decided_bind (clauses_decided m must) fun _ => ?_
      refine decided_bind (clauses_decided m filter) fun _ => ?_
      refine decided_bind (clauses_decided m mustNot) fun _ => ?_
      exact decided_map (clauses_decided m should) _

theorem clauses_decided (m : Mapping) : ∀ c : Clauses, Decided (c.Filled 1) (compileClauses m c)
  | .absent => decided_ok _
  | .single q => by
      rw [compileClauses]
      exact decided_map (compile_decided m q) _
  | .many qs => by
      rw [compileClauses]
      exact list_decided m qs

theorem list_decided (m : Mapping) : ∀ qs : List Query, Decided (AllFilled 1 qs) (compileAll m qs)
  | [] => decided_ok _
  | q :: rest => by
      rw [compileAll]
      refine decided_bind (compile_decided m q) fun _ => ?_
      exact decided_map (list_decided m rest) _
end

/-! Reading the parts -/

theorem scalar_read : (∃ s, scalarText? (ofValue v) = some s) ↔ Scalar v := by
  constructor
  · rintro ⟨s, read⟩
    cases v with
    | string s => exact .string s
    | number n => exact .number n
    | bool b => exact .bool b
    | null | array | object => cases read
  · rintro (s | n | b) <;> exact ⟨_, rfl⟩

theorem boost_read : v = .null ∨ (∃ x, boost? (ofValue v) = some x) ↔ Boost v := by
  constructor
  · rintro (rfl | ⟨x, read⟩)
    · exact .null
    · cases v with
      | number n => exact .number n
      | null | bool | string | array | object => cases read
  · rintro (_ | n)
    · exact .inl rfl
    · exact .inr ⟨_, rfl⟩

theorem operator_read : v = .null ∨ (∃ s, string? (ofValue v) = some s) ↔ Operator v := by
  constructor
  · rintro (rfl | ⟨s, read⟩)
    · exact .null
    · cases v with
      | string s => exact .string s
      | null | bool | number | array | object => cases read
  · rintro (_ | s)
    · exact .inl rfl
    · exact .inr ⟨_, rfl⟩

theorem boosts_read {absent : Slot} (vacant : absent.Vacant) {value : Option Json} :
    (∃ found, (absent.holding ofValue value).omissible boost? = some found) ↔ ∀ w ∈ value, Boost w := by
  rw [omissible_some vacant]
  simp only [boost_read]

theorem operators_read {absent : Slot} (vacant : absent.Vacant) {value : Option Json} :
    (∃ found, (absent.holding ofValue value).omissible string? = some found) ↔ ∀ w ∈ value, Operator w := by
  rw [omissible_some vacant]
  simp only [operator_read]

theorem detailed_read (ordered : Keyed.Ordered members) :
    (∃ f, FieldQuery.detailed? (ofValue (.object members)) = some f) ↔
      (∃ w ∈ Keyed.find? members "query", Scalar w) ∧ (∀ w ∈ Keyed.find? members "operator", Operator w) ∧
        ∀ w ∈ Keyed.find? members "boost", Boost w := by
  have vacant : Slot.noMember.Vacant := nofun
  simp only [← scalar_read (v := _), ← required_read vacant, ← operators_read vacant, ← boosts_read vacant]
  rw [FieldQuery.detailed?, object_slots _ ordered]
  simp only [List.map, Option.bind_eq_bind, Option.bind_some, Option.bind_eq_some_iff]
  constructor
  · rintro ⟨f, s, text, operator, readOperator, boost, readBoost, _⟩
    exact ⟨⟨s, text⟩, ⟨operator, readOperator⟩, ⟨boost, readBoost⟩⟩
  · rintro ⟨⟨s, text⟩, ⟨operator, readOperator⟩, ⟨boost, readBoost⟩⟩
    exact ⟨_, s, text, operator, readOperator, boost, readBoost, rfl⟩

theorem asked_read (canonical : v.Canonical) : (∃ f, FieldQuery.ofDraft? (ofValue v) = some f) ↔ Asked v := by
  rw [FieldQuery.ofDraft?, if_pos (usable_of_canonical canonical)]
  constructor
  · rintro ⟨f, read⟩
    cases alone : scalarText? (ofValue v) with
    | some s => exact .plain (scalar_read.mp ⟨s, alone⟩)
    | none =>
        rw [alone] at read
        cases v with
        | object members =>
            obtain ⟨text, operator, boost⟩ := (detailed_read canonical.1).mp ⟨f, read⟩
            exact .detailed text operator boost
        | null | bool | number | string | array => cases read
  · rintro (scalar | @⟨members, text, operator, boost⟩)
    · obtain ⟨s, read⟩ := scalar_read.mpr scalar
      exact ⟨.plain s, by rw [read]⟩
    · exact (detailed_read canonical.1).mpr ⟨text, operator, boost⟩

/-! Reading the forms -/

def OfAll (content : Json) : Prop :=
  ∃ members, Entries ["boost"] content members ∧ ∀ w ∈ Keyed.find? members "boost", Boost w

def OfFields (least : Nat) (content : Json) : Prop :=
  ∃ fields, content = .object fields ∧ least ≤ fields.length ∧ ∀ f ∈ fields, Asked f.2

def OfBool (P : Json → Prop) (content : Json) : Prop :=
  ∃ members, Entries boolFields content members ∧ (∀ e ∈ members, e.1 ∈ boolFields) ∧
    (∀ key ∈ groupFields, ∀ w ∈ Keyed.find? members key, Group P w) ∧ ∀ w ∈ Keyed.find? members "boost", Boost w

theorem grammatical_iff {kind : String} : Grammatical least (.object [(kind, content)]) ↔
    kind = "match_all" ∧ OfAll content ∨ (kind = "match" ∨ kind = "match_phrase") ∧ OfFields least content ∨
      kind = "bool" ∧ OfBool (Grammatical least) content := by
  constructor
  · intro grammatical
    cases grammatical with
    | matchAll entries boost => exact .inl ⟨rfl, _, entries, boost⟩
    | matchFields mode enough asked =>
        refine .inr (.inl ⟨?_, _, rfl, enough, asked⟩)
        cases mode with
        | terms => exact .inl rfl
        | phrase => exact .inr rfl
    | bool entries known groups boost => exact .inr (.inr ⟨rfl, _, entries, known, groups, boost⟩)
  · rintro (⟨rfl, _, entries, boost⟩ | ⟨rfl | rfl, _, rfl, enough, asked⟩ |
      ⟨rfl, _, entries, known, groups, boost⟩)
    · exact .matchAll entries boost
    · exact .matchFields .terms enough asked
    · exact .matchFields .phrase enough asked
    · exact .bool entries known groups boost

theorem match_all_read (canonical : content.Canonical) :
    (∃ q, matchAllOfDraft? (ofValue content) = some q ∧ q.Filled least) ↔ OfAll content := by
  constructor
  · rintro ⟨q, read, _⟩
    obtain ⟨slots, found, read⟩ := Option.bind_eq_some_iff.mp read
    obtain ⟨members, entries⟩ := entries_of_slots found
    obtain ⟨absent, vacant, held⟩ := slots_of_entries (by decide) canonical entries
    cases held.symm.trans found
    obtain ⟨boost, readBoost, _⟩ := Option.bind_eq_some_iff.mp read
    exact ⟨members, entries, (boosts_read vacant).mp ⟨boost, readBoost⟩⟩
  · rintro ⟨members, entries, boost⟩
    obtain ⟨absent, vacant, held⟩ := slots_of_entries (by decide) canonical entries
    obtain ⟨boost, readBoost⟩ := (boosts_read vacant).mpr boost
    refine ⟨.matchAll boost, ?_, trivial⟩
    simp only [matchAllOfDraft?, held, List.map, readBoost, Option.bind_eq_bind, Option.bind_some]

theorem match_fields_read (mode : Occurrence) (canonical : content.Canonical) :
    (∃ q, ((ofValue content).keyed? FieldQuery.ofDraft?).map (Query.matchFields mode) = some q ∧ q.Filled least) ↔
      OfFields least content := by
  constructor
  · rintro ⟨q, read, filled⟩
    obtain ⟨found, readFields, rfl⟩ := Option.map_eq_some_iff.mp read
    rw [Filled] at filled
    cases content with
    | object fields =>
        have each := (keyed_read canonical.1).mp readFields
        refine ⟨fields, rfl, each.length_eq ▸ filled, fun f member => ?_⟩
        obtain ⟨g, ⟨_, read⟩, _⟩ := each_good.mp ⟨found, each, fun _ _ => trivial⟩ f member
        exact (asked_read (canonical_members.mp canonical.2 f member)).mp ⟨_, read⟩
    | null | bool | number | string | array => cases readFields
  · rintro ⟨fields, rfl, enough, asked⟩
    have each : ∀ f ∈ fields, ∃ g, MemberRead FieldQuery.ofDraft? f g ∧ True := fun f member => by
      obtain ⟨q, read⟩ := (asked_read (canonical_members.mp canonical.2 f member)).mpr (asked f member)
      exact ⟨(f.1, q), ⟨rfl, read⟩, trivial⟩
    obtain ⟨found, each, _⟩ := each_good.mpr each
    refine ⟨.matchFields mode found, ?_, ?_⟩
    · rw [(keyed_read canonical.1).mpr each, Option.map_some]
    · rw [Filled, ← each.length_eq]
      exact enough

def Agrees (least n : Nat) : Prop :=
  ∀ w : Json, w.Canonical → (ofValue w).depth ≤ n →
    ((∃ q, ofDraftWithin n (ofValue w) = some q ∧ q.Filled least) ↔ Grammatical least w)

theorem array_unread (n : Nat) (items : List Draft) : ofDraftWithin n (.array items) = none := by
  cases n <;> rfl

theorem clauses_read {n : Nat} (agrees : Agrees least n) (canonical : w.Canonical) (shallow : (ofValue w).depth ≤ n) :
    w = .null ∨ (∃ c, Clauses.ofDraft? (ofDraftWithin n) (ofValue w) = some c ∧ c.Filled least) ↔
      Group (Grammatical least) w := by
  have item {items : List Json} {v : Json} (canonical : (Json.array items).Canonical)
      (shallow : (ofValue (.array items)).depth ≤ n) (member : v ∈ items) :=
    agrees v (canonical_items.mp canonical v member) (Nat.le_trans (Nat.le_of_lt (item_depth member)) shallow)
  rw [Clauses.ofDraft?, if_pos (usable_of_canonical canonical)]
  constructor
  · rintro (rfl | ⟨c, read, filled⟩)
    · exact .absent
    · cases single : ofDraftWithin n (ofValue w) with
      | some q =>
          rw [single] at read
          cases read
          exact .single ((agrees w canonical shallow).mp ⟨q, single, filled⟩)
      | none =>
          rw [single] at read
          obtain ⟨qs, readAll, rfl⟩ := Option.map_eq_some_iff.mp read
          cases w with
          | array items =>
              refine .many fun v member => (item canonical shallow member).mp ?_
              exact each_good.mp ⟨qs, list_read.mp readAll, all_filled_iff.mp filled⟩ v member
          | null | bool | number | string | object => cases readAll
  · rintro (_ | query | @⟨items, queries⟩)
    · exact .inl rfl
    · obtain ⟨q, read, filled⟩ := (agrees w canonical shallow).mpr query
      exact .inr ⟨.single q, by rw [read], filled⟩
    · obtain ⟨qs, each, filled⟩ := each_good.mpr fun v member => (item canonical shallow member).mpr (queries v member)
      refine .inr ⟨.many qs, ?_, all_filled_iff.mpr filled⟩
      rw [ofValue, array_unread]
      exact Option.map_eq_some_iff.mpr ⟨qs, list_read.mpr each, rfl⟩

theorem group_read {n : Nat} (agrees : Agrees least n) {absent : Slot} (vacant : absent.Vacant) {value : Option Json}
    (inside : ∀ w ∈ value, w.Canonical ∧ (ofValue w).depth ≤ n) :
    (∃ c, Clauses.ofSlot? (ofDraftWithin n) (absent.holding ofValue value) = some c ∧ c.Filled least) ↔
      ∀ w ∈ value, Group (Grammatical least) w := by
  have slot := omissible_read vacant (fun found => (found.getD .absent).Filled least) trivial value
    (Clauses.ofDraft? (ofDraftWithin n))
  have mapped : (∃ c, Clauses.ofSlot? (ofDraftWithin n) (absent.holding ofValue value) = some c ∧ c.Filled least) ↔
      ∃ found, (absent.holding ofValue value).omissible (Clauses.ofDraft? (ofDraftWithin n)) = some found ∧
        (found.getD .absent).Filled least := by
    simp [Clauses.ofSlot?, Option.map_eq_some_iff]
  rw [mapped, slot]
  exact forall₂_congr fun w found => clauses_read agrees (inside w found).1 (inside w found).2

def boolOfSlots? (read : Draft → Option Query) (slot : String → Slot) : Option Query := do
  some (.bool (← Clauses.ofSlot? read (slot "must")) (← Clauses.ofSlot? read (slot "filter"))
    (← Clauses.ofSlot? read (slot "must_not")) (← Clauses.ofSlot? read (slot "should"))
    (← (slot "minimum_should_match").omissible value?) (← (slot "boost").omissible boost?))

theorem bool_of_slots (read : Draft → Option Query) {d : Draft} {slot : String → Slot}
    (found : d.slots? boolFields = some (boolFields.map slot)) :
    boolOfDraft? read d = if d.hasOnly boolFields then boolOfSlots? read slot else none := by
  rw [boolOfDraft?, found]
  cases d.hasOnly boolFields <;> rfl

theorem slots_assembled {read : Draft → Option Query} {slot : String → Slot} :
    (∃ q, boolOfSlots? read slot = some q ∧ q.Filled least) ↔
      (∀ key ∈ groupFields, ∃ c, Clauses.ofSlot? read (slot key) = some c ∧ c.Filled least) ∧
        (∃ v, (slot "minimum_should_match").omissible value? = some v) ∧
        ∃ x, (slot "boost").omissible boost? = some x := by
  constructor
  · rintro ⟨q, assembled, filled⟩
    simp only [boolOfSlots?, Option.bind_eq_bind, Option.bind_eq_some_iff] at assembled
    obtain ⟨a, must, b, filter, c, mustNot, d, should, v, minimum, x, boost, made⟩ := assembled
    cases made
    obtain ⟨filledMust, filledFilter, filledMustNot, filledShould⟩ := filled
    refine ⟨?_, ⟨v, minimum⟩, ⟨x, boost⟩⟩
    simp only [groupFields, List.forall_mem_cons, List.not_mem_nil, IsEmpty.forall_iff, implies_true, and_true]
    exact ⟨⟨a, must, filledMust⟩, ⟨b, filter, filledFilter⟩, ⟨c, mustNot, filledMustNot⟩, ⟨d, should, filledShould⟩⟩
  · rintro ⟨groups, ⟨v, minimum⟩, ⟨x, boost⟩⟩
    simp only [groupFields, List.forall_mem_cons, List.not_mem_nil, IsEmpty.forall_iff, implies_true, and_true] at groups
    obtain ⟨⟨a, must, filledMust⟩, ⟨b, filter, filledFilter⟩, ⟨c, mustNot, filledMustNot⟩, ⟨d, should, filledShould⟩⟩ := groups
    refine ⟨.bool a b c d v x, ?_, filledMust, filledFilter, filledMustNot, filledShould⟩
    simp only [boolOfSlots?, must, filter, mustNot, should, minimum, boost, Option.bind_eq_bind, Option.bind_some]

theorem held_read {n : Nat} (agrees : Agrees least n) (canonical : content.Canonical)
    (shallow : (ofValue content).depth ≤ n) (entries : Entries boolFields content members) {absent : Slot}
    (vacant : absent.Vacant) :
    (∃ q, boolOfSlots? (ofDraftWithin n) (fun key => absent.holding ofValue (Keyed.find? members key)) = some q ∧
        q.Filled least) ↔
      (∀ key ∈ groupFields, ∀ w ∈ Keyed.find? members key, Group (Grammatical least) w) ∧
        ∀ w ∈ Keyed.find? members "boost", Boost w := by
  have inside (key : String) (w : Json) (found : w ∈ Keyed.find? members key) :
      w.Canonical ∧ (ofValue w).depth ≤ n :=
    have member := Keyed.mem_of_find found
    ⟨entry_canonical canonical entries member, Nat.le_trans (Nat.le_of_lt (entry_depth entries member)) shallow⟩
  have minimum : ∃ v, (absent.holding ofValue (Keyed.find? members "minimum_should_match")).omissible value? = some v :=
    (omissible_some vacant).mpr fun w found => .inr ⟨w, value_of_draft (inside _ w found).1⟩
  rw [slots_assembled, boosts_read vacant, and_iff_right minimum]
  exact and_congr_left' (forall₂_congr fun key _ => group_read agrees vacant (inside key))

theorem bool_read {n : Nat} (agrees : Agrees least n) (canonical : content.Canonical)
    (shallow : (ofValue content).depth ≤ n) :
    (∃ q, boolOfDraft? (ofDraftWithin n) (ofValue content) = some q ∧ q.Filled least) ↔
      OfBool (Grammatical least) content := by
  constructor
  · rintro ⟨q, read, filled⟩
    obtain ⟨_, _, taken⟩ := Option.bind_eq_some_iff.mp read
    obtain ⟨slots, found, _⟩ := Option.bind_eq_some_iff.mp taken
    obtain ⟨members, entries⟩ := entries_of_slots found
    obtain ⟨absent, vacant, held⟩ := slots_of_entries (by decide) canonical entries
    rw [bool_of_slots _ held] at read
    obtain ⟨only, read⟩ := Option.ite_none_right_eq_some.mp read
    exact ⟨members, entries, (only_entries entries).mp only,
      (held_read agrees canonical shallow entries vacant).mp ⟨q, read, filled⟩⟩
  · rintro ⟨members, entries, known, parts⟩
    obtain ⟨absent, vacant, held⟩ := slots_of_entries (by decide) canonical entries
    rw [bool_of_slots _ held, if_pos ((only_entries entries).mpr known)]
    exact (held_read agrees canonical shallow entries vacant).mpr parts

theorem tagged_read (n : Nat) (kind : String) (content : Json) :
    ofDraftWithin (n + 1) (ofValue (.object [(kind, content)])) =
      if kind = "match_all" then matchAllOfDraft? (ofValue content)
      else if kind = "match" then ((ofValue content).keyed? FieldQuery.ofDraft?).map (.matchFields .terms)
      else if kind = "match_phrase" then ((ofValue content).keyed? FieldQuery.ofDraft?).map (.matchFields .phrase)
      else if kind = "bool" then boolOfDraft? (ofDraftWithin n) (ofValue content)
      else none := rfl

theorem untagged_unread (n : Nat) (other : ∀ kind content, v ≠ .object [(kind, content)]) :
    ofDraftWithin n (ofValue v) = none := by
  cases n with
  | zero => rfl
  | succ n =>
      cases v with
      | object members =>
          match members, other with
          | [], _ => rfl
          | [(kind, content)], other => exact absurd rfl (other kind content)
          | _ :: _ :: _, _ => rfl
      | null | bool | number | string | array => rfl

theorem untagged_not_grammatical (other : ∀ kind content, v ≠ .object [(kind, content)]) : ¬ Grammatical least v := by
  rintro (_ | _ | _) <;> exact other _ _ rfl

-- By induction on the depth: what a query is made of lies deeper.
theorem agrees_within (least n : Nat) : Agrees least n := by
  induction n with
  | zero => exact fun w _ shallow => absurd (depth_pos (ofValue w)) (Nat.not_lt.mpr shallow)
  | succ n ih =>
      intro w canonical shallow
      by_cases tagged : ∃ kind content, w = .object [(kind, content)]
      · obtain ⟨kind, content, rfl⟩ := tagged
        have inner : content.Canonical := canonical.2.1
        have deeper : (ofValue content).depth ≤ n := content_depth shallow
        rw [tagged_read, grammatical_iff]
        by_cases all : kind = "match_all"
        · simp [all, match_all_read inner]
        · by_cases terms : kind = "match"
          · simpa [terms] using match_fields_read .terms inner
          · by_cases phrase : kind = "match_phrase"
            · simpa [phrase] using match_fields_read .phrase inner
            · by_cases bool : kind = "bool"
              · simp [bool, bool_read ih inner deeper]
              · simp [all, terms, phrase, bool]
      · have other : ∀ kind content, w ≠ .object [(kind, content)] := fun kind content same => tagged ⟨kind, content, same⟩
        rw [untagged_unread _ other]
        exact iff_of_false nofun (untagged_not_grammatical other)

theorem read_iff (canonical : v.Canonical) : (∃ q, ofJson? v = some q ∧ q.Filled least) ↔ Grammatical least v :=
  agrees_within least _ v canonical (Nat.le_refl _)

/-! The grammar is what is accepted -/

theorem accepted_iff (canonical : v.Canonical) : (∃ q, ofJson? v = some q) ↔ Grammatical 0 v := by
  rw [← read_iff canonical]
  simp [filled_zero]

/-- A value is read as a query exactly when it follows the grammar, and compiled exactly when besides each
of its matches has fields. -/
theorem grammar_accepted_exactly (v : Json) (canonical : v.Canonical) :
    ((∃ q, ofJson? v = some q) ↔ Grammatical 0 v) ∧ ∀ m,
      ((∃ p, compileJson v m = .ok p) ↔ Grammatical 1 v) ∧
      (¬ Grammatical 0 v → compileJson v m = .error (.malformedInput .query)) ∧
      (Grammatical 0 v → ¬ Grammatical 1 v → compileJson v m = .error (.malformedInput .noMatchField)) := by
  refine ⟨accepted_iff canonical, fun m => ?_⟩
  rw [← accepted_iff canonical, ← read_iff canonical, compileJson]
  cases read : ofJson? v with
  | none => simp
  | some q =>
      have decided := compile_decided m q
      cases compiled : compile m q with
      | ok p =>
          rw [compiled] at decided
          cases decided with
          | accepted _ filled => simp [filled, compiled]
      | error e =>
          rw [compiled] at decided
          cases decided with
          | refused bare => simp [bare, compiled]

def nestedQuery (fields : List (String × Json)) : Json :=
  .object [("bool", .array [.object [("match_all", .array [])],
    .array [.object [("bool", .object [("should", .object [("match_phrase", .object fields)])])]]])]

theorem nested_query_canonical {fields : List (String × Json)} (canonical : (Json.object fields).Canonical) :
    (nestedQuery fields).Canonical := by
  simpa [nestedQuery, Canonical, CanonicalItems, CanonicalMembers, Keyed.Ordered] using canonical

theorem nested_query_accepted_exactly :
    (Grammatical 0 (nestedQuery []) ∧ ¬ Grammatical 1 (nestedQuery []) ∧
      compileJson (nestedQuery []) .empty = .error (.malformedInput .noMatchField)) ∧
    Grammatical 1 (nestedQuery [("f", .bool true)]) := by
  obtain ⟨read, compiled⟩ := grammar_accepted_exactly (nestedQuery [])
    (nested_query_canonical ⟨List.Pairwise.nil, trivial⟩)
  obtain ⟨_, filled⟩ := grammar_accepted_exactly (nestedQuery [("f", .bool true)])
    (nested_query_canonical ⟨List.pairwise_singleton .., trivial, trivial⟩)
  have grammatical : Grammatical 0 (nestedQuery []) := read.mp ⟨_, rfl⟩
  obtain ⟨accepted, _, bare⟩ := compiled .empty
  have refused : compileJson (nestedQuery []) .empty = .error (.malformedInput .noMatchField) := rfl
  have lacking : ¬ Grammatical 1 (nestedQuery []) := fun whole => by
    obtain ⟨p, found⟩ := accepted.mpr whole
    cases refused.symm.trans found
  exact ⟨⟨grammatical, lacking, bare grammatical lacking⟩, (filled .empty).1.mp ⟨_, rfl⟩⟩

end Query

end SearchStore

import SearchStore.Envelope.Decode
import SearchStore.Proofs.Json.Records
import SearchStore.Proofs.Rest.Writes

/-!
The items of a bulk answer are read back as they are written. What an item says of its outcome stands
without a tag next to its status: a write has its shards, a read has an index and no shards, and an error
has neither. Only a source that is null is lost, since it reads as none.
-/

set_option autoImplicit false

namespace SearchStore

open Json Json.Draft

namespace Keyed

variable {α β : Type}

theorem find_append (m n : Keyed α) (key : String) :
    Keyed.find? (m ++ n) key = (Keyed.find? m key).or (Keyed.find? n key) := by
  induction m with
  | nil => rfl
  | cons e rest ih =>
      rw [List.cons_append, Keyed.find?, Keyed.find?, ih]
      by_cases here : e.1 = key
      · rw [if_pos here, if_pos here]
        rfl
      · rw [if_neg here, if_neg here]

theorem find_optional (f : α → β) (key : String) (o : Option α) (asked : String) :
    Keyed.find? (o.map fun a => (key, f a)).toList asked = if key = asked then o.map f else none := by
  cases o with
  | none =>
      rw [Option.map_none, Option.map_none, ite_self]
      rfl
  | some a => rfl

def onValues (f : α → β) (m : Keyed α) : Keyed β := m.map fun e => (e.1, f e.2)

theorem insert_on_values (f : α → β) (m : Keyed α) (key : String) (value : α) :
    onValues f (Keyed.insert m key value) = Keyed.insert (onValues f m) key (f value) := by
  induction m with
  | nil => rfl
  | cons e rest ih =>
      obtain ⟨k, v⟩ := e
      have first : onValues f ((k, v) :: rest) = (k, f v) :: onValues f rest := rfl
      rw [first, Keyed.insert, Keyed.insert]
      by_cases same : key = k
      · rw [if_pos same, if_pos same]
        rfl
      · rw [if_neg same, if_neg same]
        by_cases earlier : Text.before key k = true
        · rw [if_pos earlier, if_pos earlier]
          rfl
        · rw [if_neg earlier, if_neg earlier, ← ih]
          rfl

theorem of_list_on_values (f : α → β) (members : List (String × α)) :
    onValues f (Keyed.ofList members) = Keyed.ofList (onValues f members) := by
  have fold (before : Keyed α) : onValues f (members.foldl (fun m e => Keyed.insert m e.1 e.2) before) =
      (onValues f members).foldl (fun m e => Keyed.insert m e.1 e.2) (onValues f before) := by
    induction members generalizing before with
    | nil => rfl
    | cons e rest ih => exact (ih _).trans (by rw [insert_on_values]; rfl)
  exact fold []

end Keyed

namespace Json

variable {members : List (String × Json)}

theorem reread_of_members (members : List (String × Json)) :
    (ofMembers members).reread = ofMembers (Keyed.onValues reread members) := by
  rw [ofMembers, reread, withNumbers, members_with_numbers, ofMembers, ← Keyed.of_list_on_values]
  rfl

theorem reread_of_int (i : Int) : (ofInt i).reread = ofInt i := by
  rw [ofInt, Number.ofInt?]
  by_cases fits : leastInteger ≤ i ∧ i ≤ greatestInteger
  · rw [dif_pos fits]
    have kept : (Number.integer i fits).reread.getD (.integer i fits) = .integer i fits := by
      rw [Number.reread_integer, Option.getD_some]
    exact congrArg Json.number kept
  · rw [dif_neg fits]
    rfl

theorem not_null {v : Json} (filled : v ≠ .null) : v.isNull = false := by
  cases v with
  | null => exact absurd rfl filled
  | bool | number | string | array | object => rfl

namespace Draft

theorem written_fields (fields : List String) (apart : (Keyed.keys members).Nodup) :
    (ofValue (Json.ofMembers members)).slots? fields =
      some (fields.map fun key => Slot.noMember.holding ofValue (Keyed.find? members key)) := by
  have slots := object_slots fields (Keyed.ofList_ordered members)
  simp only [Keyed.find_of_list apart] at slots
  exact slots

theorem integer_of_int {i : Int} (fits : leastInteger ≤ i ∧ i ≤ greatestInteger) : (ofValue (.ofInt i)).integer? = some i := by
  rw [Json.ofInt, Number.ofInt?, dif_pos fits]
  rfl

theorem nat_read {greatest n : Nat} (small : greatest ≤ greatest64) (fits : n ≤ greatest) :
    nat? greatest (ofValue (.ofNat n)) = some n := by
  have bound : (n : Int) ≤ greatest := Int.ofNat_le.mpr fits
  have limit : (greatest : Int) ≤ greatest64 := Int.ofNat_le.mpr small
  have whole : (ofValue (.ofNat n)).integer? = some (n : Int) :=
    integer_of_int ⟨Int.le_trans (by decide) (Int.natCast_nonneg n), Int.le_trans bound limit⟩
  rw [nat?, whole, Option.bind_eq_bind, Option.bind_some, if_pos ⟨Int.natCast_nonneg n, bound⟩, Int.toNat_natCast]

theorem int64_read {i : Int} (fits : leastInteger ≤ i ∧ i ≤ greatestSigned) : int64? (ofValue (.ofInt i)) = some i := by
  have whole := integer_of_int ⟨fits.1, Int.le_trans fits.2 (by decide)⟩
  rw [int64?, whole, Option.bind_eq_bind, Option.bind_some, if_pos fits]

end Draft

end Json

/-! Each envelope by itself -/

structure Shards.Proper (s : Shards) : Prop where
  total : s.total ≤ greatest32
  failed : s.failed ≤ greatest32
  successful : s.successful ≤ greatest32

structure WriteEnvelope.Proper (r : WriteEnvelope) : Prop where
  shards : r.shards.Proper
  version : leastInteger ≤ r.version ∧ r.version ≤ greatestSigned

structure ReadEnvelope.Proper (r : ReadEnvelope) : Prop where
  version : ∀ v ∈ r.version, leastInteger ≤ v ∧ v ≤ greatestSigned
  source : ∀ s ∈ r.source, s.Canonical

def ReadEnvelope.settled (r : ReadEnvelope) : ReadEnvelope := { r with source := r.source.filter (! ·.isNull) }

theorem Shards.read_back {s : Shards} (proper : s.Proper) : Shards.ofDraft? (ofValue s.toJson) = some s := by
  have small : greatest32 ≤ greatest64 := by decide
  rw [toJson, ofDraft?, written_fields ["total", "failed", "successful"] (by simp [Keyed.keys])]
  simp only [List.map, Keyed.find?, String.reduceEq, ↓reduceIte, Slot.holding, Slot.required, nat32?,
    nat_read small proper.total, nat_read small proper.failed, nat_read small proper.successful,
    Option.bind_eq_bind, Option.bind_some]

theorem WriteEnvelope.read_back {r : WriteEnvelope} (proper : r.Proper) : ofDraft? (ofValue r.toJson) = some r := by
  rw [toJson, members, ofDraft?, written_fields _ (by simp [Keyed.keys])]
  simp only [List.map, Keyed.find?, String.reduceEq, ↓reduceIte, Slot.holding, Slot.required,
    Shards.read_back proper.shards, int64_read proper.version, Option.bind_eq_bind, Option.bind_some]
  rfl

theorem ItemError.read_back (e : ItemError) : ofDraft? (ofValue e.toJson) = some e := by
  rw [toJson, ofDraft?, written_fields _ (by simp [Keyed.keys])]
  rfl

namespace ReadEnvelope

variable {r : ReadEnvelope}

theorem members_apart (r : ReadEnvelope) : (Keyed.keys r.members).Nodup := by
  rw [members]
  cases r.version <;> cases r.source <;> simp [Keyed.keys]

theorem find_members (r : ReadEnvelope) (key : String) : Keyed.find? r.members key =
    ((Keyed.find? [("_index", .string r.index), ("_type", .string r.type), ("_id", .string r.id), ("found", .bool r.found)]
      key).or (if "_version" = key then r.version.map .ofInt else none)).or (if "_source" = key then r.source else none) := by
  rw [members, Keyed.find_append, Keyed.find_append, Keyed.find_optional, Keyed.find_optional (fun s => s), Option.map_id']

theorem version_read (proper : r.Proper) :
    (Slot.noMember.holding ofValue (r.version.map .ofInt)).optional int64? = some r.version := by
  cases present : r.version with
  | none => rfl
  | some v =>
      have read := int64_read (proper.version v present)
      have filled : Json.ofInt v ≠ .null := by
        intro null
        rw [null] at read
        cases read
      rw [Option.map_some, Slot.holding, Slot.optional, nullable_value _ filled, read]
      rfl

theorem source_read (proper : r.Proper) :
    (Slot.noMember.holding ofValue r.source).optional Draft.value? = some (r.source.filter (! ·.isNull)) := by
  cases present : r.source with
  | none => rfl
  | some s =>
      by_cases null : s = .null
      · subst null
        rfl
      · have kept : s.isNull = false := not_null null
        rw [Slot.holding, Slot.optional, nullable_value _ null, value_of_draft (proper.source s present),
          Option.filter_some_pos (by rw [kept]; rfl)]
        rfl

theorem read_back (proper : r.Proper) : ofDraft? (ofValue r.toJson) = some r.settled := by
  rw [toJson, ofDraft?, written_fields _ r.members_apart]
  simp only [List.map, find_members, Keyed.find?, String.reduceEq, ↓reduceIte, Option.or_none, Option.none_or, version_read proper,
    source_read proper, Option.bind_eq_bind, Option.bind_some]
  rfl

theorem settled_whole (filled : r.source ≠ some .null) : r.settled = r := by
  rw [settled]
  cases present : r.source with
  | none => rw [Option.filter_none, ← present]
  | some s =>
      have kept : s.isNull = false := not_null fun null => filled (by rw [present, null])
      rw [Option.filter_some_pos (by rw [kept]; rfl), ← present]

end ReadEnvelope

/-! The outcome of an item -/

theorem write_refused {members : List (String × Json)} (apart : (Keyed.keys members).Nodup)
    (lacks : Keyed.find? members "_shards" = none) : WriteEnvelope.ofDraft? (ofValue (.ofMembers members)) = none := by
  rw [WriteEnvelope.ofDraft?, written_fields _ apart]
  simp only [List.map, lacks, Slot.holding, Slot.required, Option.bind_eq_bind, Option.bind_some, Option.bind_none]

theorem read_refused {members : List (String × Json)} (apart : (Keyed.keys members).Nodup)
    (lacks : Keyed.find? members "_index" = none) : ReadEnvelope.ofDraft? (ofValue (.ofMembers members)) = none := by
  rw [ReadEnvelope.ofDraft?, written_fields _ apart]
  simp only [List.map, lacks, Slot.holding, Slot.required, Option.bind_eq_bind, Option.bind_some, Option.bind_none]

namespace ItemOutcome

def Proper : ItemOutcome → Prop
  | .put r => r.Proper
  | .get r => r.Proper
  | .failed _ => True

def settled : ItemOutcome → ItemOutcome
  | .get r => .get r.settled
  | other => other

inductive Variant where
  | put
  | get
  | failed
deriving DecidableEq, Repr

def variant : ItemOutcome → Variant
  | .put _ => .put
  | .get _ => .get
  | .failed _ => .failed

theorem members_canonical {o : ItemOutcome} (proper : o.Proper) : (Json.ofMembers o.members).Canonical := by
  have int (i : Int) : (Json.ofInt i).Canonical := by
    rw [Json.ofInt]
    split <;> trivial
  refine of_members_canonical ?_
  cases o with
  | put r =>
      have shards : r.shards.toJson.Canonical := of_members_canonical ⟨int _, int _, int _, trivial⟩
      exact ⟨shards, trivial, trivial, trivial, int _, trivial, trivial, trivial⟩
  | get r =>
      rw [canonical_members]
      intro e member
      rw [members, ReadEnvelope.members, List.mem_append, List.mem_append] at member
      obtain (named | versioned) | sourced := member
      · have plain : ∀ e ∈ [("_index", Json.string r.index), ("_type", .string r.type), ("_id", .string r.id),
            ("found", .bool r.found)], e.2.Canonical := by simp [Json.Canonical]
        exact plain e named
      · obtain ⟨v, _, rfl⟩ := Option.map_eq_some_iff.mp (Option.mem_toList.mp versioned)
        exact int v
      · obtain ⟨s, present, rfl⟩ := Option.map_eq_some_iff.mp (Option.mem_toList.mp sourced)
        exact proper.source s present
  | failed e =>
      have error : e.toJson.Canonical := of_members_canonical ⟨trivial, trivial, trivial, trivial, trivial, trivial⟩
      exact ⟨error, trivial⟩

theorem read_back {o : ItemOutcome} (proper : o.Proper) :
    ofDraft? (ofValue (Json.ofMembers o.members)) = some o.settled := by
  rw [ofDraft?, if_pos (usable_of_canonical (members_canonical proper))]
  cases o with
  | put r =>
      have read : WriteEnvelope.ofDraft? (ofValue (Json.ofMembers r.members)) = some r := WriteEnvelope.read_back proper
      rw [members, read]
      rfl
  | get r =>
      have refused := write_refused r.members_apart (by rw [ReadEnvelope.find_members]; rfl)
      have read : ReadEnvelope.ofDraft? (ofValue (Json.ofMembers r.members)) = some r.settled := ReadEnvelope.read_back proper
      rw [members, refused, read]
      rfl
  | failed e =>
      have apart : (Keyed.keys [("error", e.toJson)]).Nodup := List.nodup_singleton _
      have read : failedItem? (ofValue (Json.ofMembers [("error", e.toJson)])) = some e := by
        rw [failedItem?, written_slots ["error"] apart rfl]
        exact e.read_back
      rw [members, write_refused apart rfl, read_refused apart rfl, read]
      rfl

def reread : ItemOutcome → ItemOutcome
  | .get r => .get { r with source := r.source.map Json.reread }
  | other => other

theorem reread_proper {o : ItemOutcome} (proper : o.Proper) : o.reread.Proper := by
  cases o with
  | put r => exact proper
  | failed e => trivial
  | get r =>
      refine ⟨proper.version, fun s there => ?_⟩
      obtain ⟨source, present, rfl⟩ := Option.map_eq_some_iff.mp there
      exact canonical_with_numbers (proper.source source present)

theorem reread_members (o : ItemOutcome) : Keyed.onValues Json.reread o.members = o.reread.members := by
  cases o with
  | put r =>
      have shards : r.shards.toJson.reread = r.shards.toJson := by
        simp only [Shards.toJson, reread_of_members, Keyed.onValues, List.map, Json.ofNat, reread_of_int]
      simp only [members, reread, WriteEnvelope.members, Keyed.onValues, List.map, shards, reread_of_int]
      rfl
  | get r =>
      simp only [members, reread, ReadEnvelope.members, Keyed.onValues, List.map_append]
      cases r.version <;> cases r.source <;> simp only [Option.map, Option.toList, List.map, reread_of_int] <;> rfl
  | failed e =>
      have error : e.toJson.reread = e.toJson := by
        rw [ItemError.toJson, reread_of_members]
        rfl
      simp only [members, reread, Keyed.onValues, List.map, error]

end ItemOutcome

/-! Items -/

namespace ItemEnvelope

structure Proper (i : ItemEnvelope) : Prop where
  outcome : i.outcome.Proper
  status : i.status ≤ greatest16

def settled (i : ItemEnvelope) : ItemEnvelope := { i with outcome := i.outcome.settled }

theorem kind_named (kind : ActionKind) : ActionKind.ofName? kind.name = some kind := by
  cases kind <;> rfl

theorem read_back {i : ItemEnvelope} (proper : i.Proper) : ofDraft? (ofValue i.toJson) = some i.settled := by
  obtain ⟨members, object⟩ : ∃ members, Json.ofMembers (i.outcome.members ++ [("status", .ofNat i.status)]) = .object members :=
    ⟨_, rfl⟩
  have ordered : Keyed.Ordered members := by
    cases object
    exact Keyed.ofList_ordered _
  have stated : Keyed.find? members "status" = some (.ofNat i.status) := by
    have last := last_member i.outcome.members "status" (.ofNat i.status)
    rwa [object] at last
  have others : Json.object (members.filter (·.1 ≠ "status")) = Json.ofMembers i.outcome.members := by
    have without := without_last (v := .ofNat i.status) (outcome_unstated i.outcome)
    rwa [object] at without
  have outcome : Draft.object ((Draft.ofMembers members).filter (·.1 != "status")) =
      ofValue (Json.ofMembers i.outcome.members) := by
    rw [← others, ofValue, of_members, of_members, List.filter_map]
    have same : members.filter (·.1 != "status") = members.filter (·.1 ≠ "status") :=
      List.filter_congr fun e _ => by simp [bne, Bool.beq_eq_decide_eq]
    rw [← same]
    rfl
  have written : ofValue i.toJson = .object [(i.kind.name, .object (Draft.ofMembers members))] := by
    rw [toJson, object]
    rfl
  rw [written, ofDraft?, tagged?]
  simp only [Option.bind_eq_bind, Option.bind_some, kind_named, member_slot ordered, stated, outcome,
    ItemOutcome.read_back proper.outcome, Slot.holding, Slot.required, nat16?, nat_read (by decide) proper.status]
  rfl

/-! Items read from their texts -/

def reread (i : ItemEnvelope) : ItemEnvelope := { i with outcome := i.outcome.reread }

theorem reread_json (i : ItemEnvelope) : i.toJson.reread = i.reread.toJson := by
  have inside := reread_of_members (i.outcome.members ++ [("status", .ofNat i.status)])
  rw [Keyed.onValues, List.map_append, List.map_singleton, Json.ofNat, reread_of_int] at inside
  have outcome := i.outcome.reread_members
  rw [Keyed.onValues] at outcome
  rw [outcome] at inside
  rw [toJson, toJson, Json.reread, withNumbers, membersWithNumbers, membersWithNumbers]
  exact congrArg (fun v => Json.object [(i.kind.name, v)]) inside

theorem reread_proper {i : ItemEnvelope} (proper : i.Proper) : i.reread.Proper :=
  ⟨ItemOutcome.reread_proper proper.outcome, proper.status⟩

theorem text_read_back {i : ItemEnvelope} (proper : i.Proper) (legible : i.toJson.Legible)
    (shallow : i.toJson.nesting ≤ depthLimit) : (Draft.parse? i.toJson.text).bind ofDraft? = some i.reread.settled := by
  have drafted := spelling_drafted (value_spelled _ legible) (legible_reads legible)
  rw [within_shallow (by omega)] at drafted
  rw [Json.text, drafted, Option.bind_some]
  change ofDraft? (ofValue i.toJson.reread) = _
  rw [reread_json, read_back (reread_proper proper)]

-- What is left of an item: all of it, except for a source that is null.
structure ComesBackAs (i j : ItemEnvelope) : Prop where
  kind : j.kind = i.kind
  variant : j.outcome.variant = i.outcome.variant
  status : j.status = i.status
  sourceless : ∀ r, i.outcome = .get r → r.source = some .null → j.outcome = .get { r with source := none }
  whole : (∀ r, i.outcome = .get r → r.source ≠ some .null) → j = i

theorem settled_comes_back (i : ItemEnvelope) : i.ComesBackAs i.settled where
  kind := rfl
  variant := by
    rw [settled]
    cases i.outcome <;> rfl
  status := rfl
  sourceless r read null := by
    rw [settled, read, ItemOutcome.settled, ReadEnvelope.settled, null]
    rfl
  whole filled := by
    have kept : i.outcome.settled = i.outcome := by
      cases outcome : i.outcome with
      | put r => rfl
      | failed e => rfl
      | get r => exact congrArg ItemOutcome.get (ReadEnvelope.settled_whole (filled r outcome))
    rw [settled, kept]

/-- An item is read back from its value, and from its text, but for a source that is null. -/
theorem bulk_item_read_back (i : ItemEnvelope) (proper : i.Proper) :
    (∃ j, ofDraft? (ofValue i.toJson) = some j ∧ i.ComesBackAs j) ∧
      (i.toJson.Legible → i.toJson.nesting ≤ depthLimit →
        ∃ j, (Draft.parse? i.toJson.text).bind ofDraft? = some j ∧ i.reread.ComesBackAs j) := by
  constructor
  · exact ⟨i.settled, read_back proper, settled_comes_back i⟩
  · intro legible shallow
    exact ⟨i.reread.settled, text_read_back proper legible shallow, settled_comes_back i.reread⟩

def nullRemoved : ItemEnvelope := ⟨.delete, .get ⟨"i", "t", "1", some 3, true, some .null⟩, 200⟩

theorem null_removed_read_back : nullRemoved.Proper ∧ ∃ j, ofDraft? (ofValue nullRemoved.toJson) = some j ∧
    nullRemoved.ComesBackAs j := by
  have source : ReadEnvelope.Proper ⟨"i", "t", "1", some 3, true, some .null⟩ := by
    constructor
    · decide
    · rintro _ ⟨⟩
      trivial
  have proper : nullRemoved.Proper := ⟨source, by decide⟩
  exact ⟨proper, (bulk_item_read_back nullRemoved proper).1⟩

end ItemEnvelope

end SearchStore

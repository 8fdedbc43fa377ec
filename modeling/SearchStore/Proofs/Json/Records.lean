import Mathlib.Data.List.Forall2
import SearchStore.Json.Decode
import SearchStore.Proofs.Json.Canonical
import SearchStore.Proofs.Json.Rereading

/-!
What is read for the fields of a record that is written as a value. An object holds something for a field
under its name, an array in its place; for the other fields there is nothing.
-/

set_option autoImplicit false

namespace SearchStore

theorem Keyed.filter_of_ordered {α : Type} {m : Keyed α} (ordered : Ordered m) (key : String) :
    m.filter (·.1 == key) = (Keyed.find? m key).toList.map (Prod.mk key) := by
  induction m with
  | nil => rfl
  | cons e rest ih =>
      obtain ⟨k, v⟩ := e
      obtain ⟨first, later⟩ := List.pairwise_cons.mp ordered
      by_cases here : k = key
      · subst here
        rw [List.filter_cons_of_pos (by simp), ih later, find_none_of_before first, find?, if_pos rfl]
        rfl
      · rw [List.filter_cons_of_neg (by simpa using here), ih later, find?, if_neg here]

theorem Keyed.ordered_of_keys {α β : Type} {m : Keyed α} {n : Keyed β} (ordered : Ordered m)
    (same : Keyed.keys m = Keyed.keys n) : Ordered n := by
  have keys : (Keyed.keys n).Pairwise fun j k => Text.before j k = true := same ▸ List.pairwise_map.mpr ordered
  exact List.pairwise_map.mp keys

theorem Keyed.find_of_list {α : Type} {members : List (String × α)} (apart : (Keyed.keys members).Nodup) (key : String) :
    Keyed.find? (Keyed.ofList members) key = Keyed.find? members key := by
  have fold (before : Keyed α) : Keyed.find? (members.foldl (fun m e => Keyed.insert m e.1 e.2) before) key =
      (Keyed.find? members key).or (Keyed.find? before key) := by
    induction members generalizing before with
    | nil => rfl
    | cons e rest ih =>
        obtain ⟨fresh, apart⟩ := List.nodup_cons.mp apart
        rw [List.foldl_cons, ih apart]
        by_cases here : e.1 = key
        · have later : Keyed.find? rest key = none := by
            cases found : Keyed.find? rest key with
            | none => rfl
            | some v => exact absurd (List.mem_map.mpr ⟨_, mem_of_find found, here.symm⟩) fresh
          rw [later, here, find_insert_same, find?, if_pos here]
          rfl
        · rw [find_insert_other _ _ _ _ (Ne.symm here), find?, if_neg here]
  rw [Keyed.ofList, fold, find?, Option.or_none]

namespace Json

open Draft

variable {α : Type} {fields : List String} {members : List (String × Json)} {v : Json} {absent : Slot}
  {value : Option Json} {read : Draft → Option α}

def Under (members : List (String × Json)) (key : String) (value : Option Json) : Prop :=
  members.filter (·.1 == key) = value.toList.map (Prod.mk key)

inductive Entries (fields : List String) : Json → List (String × Json) → Prop where
  | named (members : List (String × Json)) : Entries fields (.object members) members
  | listed {items : List Json} (short : items.length ≤ fields.length) : Entries fields (.array items) (fields.zip items)

namespace Draft

theorem of_items (items : List Json) : ofItems items = items.map ofValue := by
  induction items with
  | nil => rfl
  | cons v rest ih => rw [ofItems, ih, List.map_cons]

theorem of_members (members : List (String × Json)) : ofMembers members = members.map fun e => (e.1, ofValue e.2) := by
  induction members with
  | nil => rfl
  | cons e rest ih => rw [ofMembers, ih, List.map_cons]

def Slot.holding (f : Json → Draft) (absent : Slot) : Option Json → Slot
  | none => absent
  | some v => .given (f v)

def Slot.Vacant (s : Slot) : Prop := ∀ d, s ≠ .given d

theorem slot_under (f : Json → Draft) {key : String} (under : Under members key value) :
    memberSlot (members.map fun e => (e.1, f e.2)) key = some (Slot.noMember.holding f value) := by
  have kept : (members.map fun e => (e.1, f e.2)).filter (·.1 == key) = value.toList.map fun v => (key, f v) := by
    rw [List.filter_map]
    exact (congrArg _ under).trans (by rw [List.map_map]; rfl)
  rw [memberSlot, kept]
  cases value <;> rfl

theorem member_slot (ordered : Keyed.Ordered members) (key : String) :
    memberSlot (ofMembers members) key = some (Slot.noMember.holding ofValue (Keyed.find? members key)) := by
  rw [of_members]
  exact slot_under ofValue (Keyed.filter_of_ordered ordered key)

theorem object_slots (fields : List String) (ordered : Keyed.Ordered members) :
    (ofValue (.object members)).objectSlots? fields =
      some (fields.map fun key => Slot.noMember.holding ofValue (Keyed.find? members key)) := by
  rw [ofValue, objectSlots?, funext (member_slot ordered)]
  exact List.mapM_pure ..

theorem written_slots (fields : List String) (apart : fields.Nodup) (named : Keyed.keys members = fields) :
    (ofValue (Json.ofMembers members)).objectSlots? fields =
      some (fields.map fun key => Slot.noMember.holding ofValue (Keyed.find? members key)) := by
  subst named
  rw [Json.ofMembers, object_slots _ (Keyed.ofList_ordered members)]
  simp only [Keyed.find_of_list apart]

-- By induction on the fields; a field does not occur again behind its place.
theorem item_slots (apart : fields.Nodup) (items : List Json) :
    itemSlots (ofItems items) fields =
      fields.map fun key => Slot.noItem.holding ofValue (Keyed.find? (fields.zip items) key) := by
  induction fields generalizing items with
  | nil => rfl
  | cons field rest ih =>
      obtain ⟨fresh, apart⟩ := List.nodup_cons.mp apart
      cases items with
      | nil =>
          have later := ih apart []
          rw [List.zip_nil_right] at later ⊢
          exact congrArg _ later
      | cons v items =>
          rw [ofItems, itemSlots, ih apart, List.zip_cons_cons, List.map_cons, Keyed.find?, if_pos rfl]
          refine congrArg _ (List.map_congr_left fun key among => ?_)
          rw [Keyed.find?, if_neg (ne_of_mem_of_not_mem among fresh).symm]

theorem entries_of_slots {slots : List Slot} (found : (ofValue v).slots? fields = some slots) :
    ∃ members, Entries fields v members := by
  cases v with
  | object members => exact ⟨members, .named members⟩
  | array items =>
      rw [ofValue, slots?, of_items, List.length_map] at found
      exact ⟨_, .listed (Option.ite_none_right_eq_some.mp found).1⟩
  | null | bool | number | string => cases found

theorem slots_of_entries (apart : fields.Nodup) (canonical : v.Canonical) (entries : Entries fields v members) :
    ∃ absent : Slot, absent.Vacant ∧
      (ofValue v).slots? fields = some (fields.map fun key => absent.holding ofValue (Keyed.find? members key)) := by
  cases entries with
  | named => exact ⟨.noMember, nofun, object_slots fields canonical.1⟩
  | @listed items short =>
      refine ⟨.noItem, nofun, ?_⟩
      rw [← item_slots apart, ofValue, slots?, of_items, List.length_map, if_pos short]

theorem only_entries (entries : Entries fields v members) :
    (ofValue v).hasOnly fields = true ↔ ∀ e ∈ members, e.1 ∈ fields := by
  cases entries with
  | named => simp [ofValue, hasOnly, of_members]
  | listed => exact iff_of_true rfl fun e member => (List.of_mem_zip member).1

theorem nullable_value (read : Draft → Option α) (filled : v ≠ .null) :
    nullable read (ofValue v) = (read (ofValue v)).map some := by
  cases v with
  | null => exact absurd rfl filled
  | bool | number | string | array | object => rfl

theorem omissible_read (vacant : absent.Vacant) (good : Option α → Prop) (nothing : good none) (value : Option Json)
    (read : Draft → Option α) :
    (∃ found, (absent.holding ofValue value).omissible read = some found ∧ good found) ↔
      ∀ w ∈ value, w = .null ∨ ∃ a, read (ofValue w) = some a ∧ good (some a) := by
  cases value with
  | none =>
      have left : absent.omissible read = some none := by
        cases absent with
        | given d => exact absurd rfl (vacant d)
        | noMember | noItem => rfl
      exact iff_of_true ⟨none, left, nothing⟩ nofun
  | some v =>
      have only : ∀ {P : Json → Prop}, (∀ w ∈ some v, P w) ↔ P v := by simp
      rw [only]
      by_cases null : v = .null
      · subst null
        exact iff_of_true ⟨none, rfl, nothing⟩ (.inl rfl)
      · rw [Slot.holding, Slot.omissible, nullable_value read null]
        simp [null, Option.map_eq_some_iff]

theorem omissible_some (vacant : absent.Vacant) :
    (∃ found, (absent.holding ofValue value).omissible read = some found) ↔
      ∀ w ∈ value, w = .null ∨ ∃ a, read (ofValue w) = some a := by
  have found := omissible_read vacant (fun _ => True) trivial value read
  simpa using found

theorem required_read (vacant : absent.Vacant) :
    (∃ a, (absent.holding ofValue value).required read = some a) ↔ ∃ w ∈ value, ∃ a, read (ofValue w) = some a := by
  cases value with
  | none =>
      cases absent with
      | given d => exact absurd rfl (vacant d)
      | noMember | noItem => simp [Slot.holding, Slot.required]
  | some v => simp [Slot.holding, Slot.required]

theorem usable_of_canonical (canonical : v.Canonical) : (ofValue v).isUsable = true := by
  rw [isUsable, value_of_draft canonical]
  rfl

theorem each_read {β : Type} {f : β → Option α} {l : List β} {as : List α} :
    l.mapM f = some as ↔ List.Forall₂ (fun b a => f b = some a) l as := by
  induction l generalizing as with
  | nil => simp [List.forall₂_nil_left_iff, eq_comm]
  | cons b rest ih =>
      rw [List.mapM_cons, List.forall₂_cons_left_iff]
      simp only [Option.bind_eq_bind, Option.bind_eq_some_iff, Option.pure_def, Option.some.injEq, ih]
      constructor
      · rintro ⟨a, first, later, others, rfl⟩
        exact ⟨a, later, first, others, rfl⟩
      · rintro ⟨a, later, first, others, rfl⟩
        exact ⟨a, first, later, others, rfl⟩

theorem each_good {β : Type} {R : β → α → Prop} {good : α → Prop} {l : List β} :
    (∃ as, List.Forall₂ R l as ∧ ∀ a ∈ as, good a) ↔ ∀ b ∈ l, ∃ a, R b a ∧ good a := by
  induction l with
  | nil => simp [List.forall₂_nil_left_iff]
  | cons b rest ih =>
      rw [List.forall_mem_cons, ← ih]
      constructor
      · rintro ⟨_, related, good⟩
        cases related with
        | cons first later =>
            obtain ⟨here, others⟩ := List.forall_mem_cons.mp good
            exact ⟨⟨_, first, here⟩, ⟨_, later, others⟩⟩
      · rintro ⟨⟨a, first, here⟩, ⟨as, later, others⟩⟩
        exact ⟨a :: as, .cons first later, List.forall_mem_cons.mpr ⟨here, others⟩⟩

theorem list_read {items : List Json} {as : List α} :
    (ofValue (.array items)).list? read = some as ↔ List.Forall₂ (fun v a => read (ofValue v) = some a) items as := by
  rw [ofValue, list?, of_items, List.mapM_map, each_read]
  rfl

def MemberRead (read : Draft → Option α) (e : String × Json) (f : String × α) : Prop :=
  f.1 = e.1 ∧ read (ofValue e.2) = some f.2

theorem keys_read {entries : Keyed α} (each : List.Forall₂ (MemberRead read) members entries) :
    Keyed.keys members = Keyed.keys entries := by
  induction each with
  | nil => rfl
  | cons first _ ih => exact congrArg₂ List.cons first.1.symm ih

theorem keyed_read (ordered : Keyed.Ordered members) {entries : Keyed α} :
    (ofValue (.object members)).keyed? read = some entries ↔ List.Forall₂ (MemberRead read) members entries := by
  have one (e : String × Json) (f : String × α) :
      ((read (ofValue e.2)).map fun a => (e.1, a)) = some f ↔ MemberRead read e f := by
    rw [Option.map_eq_some_iff, MemberRead]
    constructor
    · rintro ⟨a, found, rfl⟩
      exact ⟨rfl, found⟩
    · rintro ⟨key, found⟩
      exact ⟨f.2, found, by rw [← key]⟩
  have kept {found : Keyed α} (each : List.Forall₂ (MemberRead read) members found) : Keyed.ofList found = found :=
    Keyed.ofList_of_ordered (Keyed.ordered_of_keys ordered (keys_read each))
  rw [ofValue, keyed?, of_members, List.mapM_map, Option.map_eq_some_iff]
  simp only [each_read, Function.comp_apply, one]
  constructor
  · rintro ⟨found, each, rfl⟩
    rwa [kept each]
  · intro each
    exact ⟨entries, each, kept each⟩

theorem each_source {β : Type} {f : β → Option α} {l : List β} {as : List α} (found : l.mapM f = some as) :
    ∀ a ∈ as, ∃ b, f b = some a := by
  have each := each_read.mp found
  clear found
  induction each with
  | nil => nofun
  | cons first _ ih => exact List.forall_mem_cons.mpr ⟨⟨_, first⟩, ih⟩

theorem keyed_good {d : Draft} {entries : Keyed α} {good : α → Prop} (found : d.keyed? read = some entries)
    (reads : ∀ e a, read e = some a → good a) : Keyed.Ordered entries ∧ ∀ f ∈ entries, good f.2 := by
  cases d with
  | object members =>
      obtain ⟨all, each, rfl⟩ := Option.map_eq_some_iff.mp found
      refine ⟨Keyed.ofList_ordered all, fun f member => ?_⟩
      obtain ⟨e, one⟩ := each_source each f (Keyed.mem_of_list member)
      obtain ⟨a, readOne, rfl⟩ := Option.map_eq_some_iff.mp one
      exact reads _ a readOne
  | null | bool | number | string | array | unusable => cases found

theorem list_good {d : Draft} {as : List α} {good : α → Prop} (found : d.list? read = some as)
    (reads : ∀ e a, read e = some a → good a) : ∀ a ∈ as, good a := by
  cases d with
  | array items =>
      intro a member
      obtain ⟨e, one⟩ := each_source found a member
      exact reads e a one
  | null | bool | number | string | object | unusable => cases found

theorem depth_pos (d : Draft) : 0 < d.depth := by
  cases d <;> simp [depth]

theorem item_depth {items : List Json} (member : v ∈ items) : (ofValue v).depth < (ofValue (.array items)).depth := by
  rw [ofValue, depth, Nat.lt_succ_iff]
  induction items with
  | nil => cases member
  | cons w rest ih =>
      rw [ofItems, depthOfItems]
      rcases List.mem_cons.mp member with rfl | later
      · exact Nat.le_max_left ..
      · exact Nat.le_trans (ih later) (Nat.le_max_right ..)

theorem member_depth {e : String × Json} (member : e ∈ members) :
    (ofValue e.2).depth < (ofValue (.object members)).depth := by
  rw [ofValue, depth, Nat.lt_succ_iff]
  induction members with
  | nil => cases member
  | cons f rest ih =>
      rw [ofMembers, depthOfMembers]
      rcases List.mem_cons.mp member with rfl | later
      · exact Nat.le_max_left ..
      · exact Nat.le_trans (ih later) (Nat.le_max_right ..)

theorem content_depth {n : Nat} {key : String} (shallow : (ofValue (.object [(key, v)])).depth ≤ n + 1) :
    (ofValue v).depth ≤ n :=
  Nat.lt_succ_iff.mp (Nat.lt_of_lt_of_le (member_depth (List.mem_singleton.mpr rfl) (e := (key, v))) shallow)

theorem written_depth (apart : (Keyed.keys members).Nodup) {key : String} (found : Keyed.find? members key = some v) :
    (ofValue v).depth < (ofValue (Json.ofMembers members)).depth :=
  member_depth (Keyed.mem_of_find ((Keyed.find_of_list apart key).trans found))

theorem entry_depth {e : String × Json} (entries : Entries fields v members) (member : e ∈ members) :
    (ofValue e.2).depth < (ofValue v).depth := by
  cases entries with
  | named => exact member_depth member
  | listed => exact item_depth (List.of_mem_zip member).2

end Draft

theorem canonical_items {items : List Json} : CanonicalItems items ↔ ∀ v ∈ items, v.Canonical := by
  induction items with
  | nil => simp [CanonicalItems]
  | cons v rest ih => simp [CanonicalItems, ih]

theorem entry_canonical {e : String × Json} (canonical : v.Canonical) (entries : Entries fields v members)
    (member : e ∈ members) : e.2.Canonical := by
  cases entries with
  | named => exact canonical_members.mp canonical.2 e member
  | listed => exact canonical_items.mp canonical e.2 (List.of_mem_zip member).2

end Json

end SearchStore

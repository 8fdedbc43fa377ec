import SearchStore.Json.Parser
import SearchStore.Proofs.Json.Spelling

/-!
Values read from their own texts. A canonical value that is not nested too deep comes back, except that
a double may come back as a neighbour of itself. Values without doubles come back as they are.
-/

set_option autoImplicit false

namespace SearchStore

namespace Keyed

variable {α : Type}

theorem insert_last {m : Keyed α} {key : String} (value : α) (earlier : ∀ e ∈ m, Text.before e.1 key = true) :
    Keyed.insert m key value = m ++ [(key, value)] := by
  induction m with
  | nil => rfl
  | cons e rest ih =>
      obtain ⟨k, v⟩ := e
      have order : Text.before k key = true := earlier (k, v) (List.mem_cons_self ..)
      have apart : key ≠ k := by
        rintro rfl
        rw [Text.before, Text.precedes_irrefl] at order
        cases order
      have later : Text.before key k ≠ true := by
        intro back
        have cycle := Text.before_trans order back
        rw [Text.before, Text.precedes_irrefl] at cycle
        cases cycle
      rw [Keyed.insert, if_neg apart, if_neg later, ih fun e member => earlier e (List.mem_cons_of_mem _ member)]
      rfl

theorem ofList_of_ordered {m : Keyed α} (ordered : Ordered m) : Keyed.ofList m = m := by
  have fold (before : Keyed α) (ordered : Ordered (before ++ m)) :
      m.foldl (fun m e => Keyed.insert m e.1 e.2) before = before ++ m := by
    induction m generalizing before with
    | nil => exact (List.append_nil before).symm
    | cons e rest ih =>
        have earlier : ∀ f ∈ before, Text.before f.1 e.1 = true := fun f member =>
          (List.pairwise_append.mp ordered).2.2 f member e (List.mem_cons_self ..)
        rw [List.foldl_cons, insert_last e.2 earlier]
        have moved : before ++ e :: rest = before ++ [e] ++ rest := by simp
        rw [moved] at ordered ⊢
        exact ih (List.pairwise_append.mp ordered).2.1 _ ordered
  exact fold [] ordered

end Keyed

namespace Json

/-! How deep a value is nested, and values with other numbers -/

mutual
def nesting : Json → Nat
  | .array items => nestingOfItems items + 1
  | .object members => nestingOfMembers members + 1
  | _ => 0

def nestingOfItems : List Json → Nat
  | [] => 0
  | v :: rest => max (nesting v) (nestingOfItems rest)

def nestingOfMembers : List (String × Json) → Nat
  | [] => 0
  | (_, v) :: rest => max (nesting v) (nestingOfMembers rest)
end

mutual
def withNumbers (f : Number → Number) : Json → Json
  | .null => .null
  | .bool b => .bool b
  | .number n => .number (f n)
  | .string s => .string s
  | .array items => .array (itemsWithNumbers f items)
  | .object members => .object (membersWithNumbers f members)

def itemsWithNumbers (f : Number → Number) : List Json → List Json
  | [] => []
  | v :: rest => withNumbers f v :: itemsWithNumbers f rest

def membersWithNumbers (f : Number → Number) : List (String × Json) → List (String × Json)
  | [] => []
  | (k, v) :: rest => (k, withNumbers f v) :: membersWithNumbers f rest
end

variable {f : Number → Number}

theorem members_with_numbers (members : List (String × Json)) :
    membersWithNumbers f members = members.map fun e => (e.1, withNumbers f e.2) := by
  induction members with
  | nil => rfl
  | cons e rest ih => rw [membersWithNumbers, ih, List.map_cons]

theorem ordered_with_numbers {members : List (String × Json)} (ordered : Keyed.Ordered members) :
    Keyed.Ordered (membersWithNumbers f members) := by
  rw [members_with_numbers]
  exact List.pairwise_map.mpr ordered

mutual
theorem canonical_with_numbers : ∀ {v : Json}, v.Canonical → (v.withNumbers f).Canonical
  | .null, _ | .bool _, _ | .number _, _ | .string _, _ => trivial
  | .array _, canonical => items_canonical_with_numbers canonical
  | .object _, canonical => ⟨ordered_with_numbers canonical.1, members_canonical_with_numbers canonical.2⟩

theorem items_canonical_with_numbers : ∀ {items : List Json}, CanonicalItems items →
    CanonicalItems (itemsWithNumbers f items)
  | [], _ => trivial
  | _ :: _, canonical => ⟨canonical_with_numbers canonical.1, items_canonical_with_numbers canonical.2⟩

theorem members_canonical_with_numbers : ∀ {members : List (String × Json)}, CanonicalMembers members →
    CanonicalMembers (membersWithNumbers f members)
  | [], _ => trivial
  | (_, _) :: _, canonical => ⟨canonical_with_numbers canonical.1, members_canonical_with_numbers canonical.2⟩
end

mutual
theorem same_numbers : ∀ {v : Json}, (∀ n ∈ v.numbers, f n = n) → v.withNumbers f = v
  | .null, _ | .bool _, _ | .string _, _ => rfl
  | .number n, kept => congrArg Json.number (kept n (List.mem_singleton_self n))
  | .array _, kept => congrArg Json.array (same_numbers_of_items kept)
  | .object _, kept => congrArg Json.object (same_numbers_of_members kept)

theorem same_numbers_of_items : ∀ {items : List Json}, (∀ n ∈ numbersOfItems items, f n = n) →
    itemsWithNumbers f items = items
  | [], _ => rfl
  | _ :: _, kept => congrArg₂ List.cons (same_numbers (among_items kept).1) (same_numbers_of_items (among_items kept).2)

theorem same_numbers_of_members : ∀ {members : List (String × Json)}, (∀ n ∈ numbersOfMembers members, f n = n) →
    membersWithNumbers f members = members
  | [], _ => rfl
  | (k, _) :: _, kept =>
      congrArg₂ (fun v rest => (k, v) :: rest) (same_numbers (among_members kept).1)
        (same_numbers_of_members (among_members kept).2)
end

/-! Drafts of values -/

mutual
theorem value_of_draft : ∀ {v : Json}, v.Canonical → (Draft.ofValue v).value? = some v
  | .null, _ | .bool _, _ | .number _, _ | .string _, _ => rfl
  | .array items, canonical => by rw [Draft.ofValue, Draft.value?, items_of_draft canonical, Option.map_some]
  | .object members, canonical => by
      rw [Draft.ofValue, Draft.value?, members_of_draft canonical.2, Option.map_some, ofMembers,
        Keyed.ofList_of_ordered canonical.1]

theorem items_of_draft : ∀ {items : List Json}, CanonicalItems items →
    Draft.itemValues? (Draft.ofItems items) = some items
  | [], _ => rfl
  | v :: rest, canonical => by
      simp only [Draft.ofItems, Draft.itemValues?, value_of_draft canonical.1, items_of_draft canonical.2,
        Option.bind_eq_bind, Option.bind_some]

theorem members_of_draft : ∀ {members : List (String × Json)}, CanonicalMembers members →
    Draft.memberValues? (Draft.ofMembers members) = some members
  | [], _ => rfl
  | (k, v) :: rest, canonical => by
      simp only [Draft.ofMembers, Draft.memberValues?, value_of_draft canonical.1, members_of_draft canonical.2,
        Option.bind_eq_bind, Option.bind_some]
end

/-! What is read for a value so many containers deep -/

namespace Draft

mutual
def within (f : Number → Number) (level : Nat) : Json → Draft
  | .null => .null
  | .bool b => .bool b
  | .number n => .number (f n)
  | .string s => .string s
  | .array items => if level < depthLimit then .array (itemsWithin f (level + 1) items) else .unusable
  | .object members => if level < depthLimit then .object (membersWithin f (level + 1) members) else .unusable

def itemsWithin (f : Number → Number) (level : Nat) : List Json → List Draft
  | [] => []
  | v :: rest => within f level v :: itemsWithin f level rest

def membersWithin (f : Number → Number) (level : Nat) : List (String × Json) → List (String × Draft)
  | [] => []
  | (k, v) :: rest => (k, within f level v) :: membersWithin f level rest
end

variable {level : Nat}

mutual
theorem within_shallow : ∀ {v : Json} {level : Nat}, level + v.nesting ≤ depthLimit →
    within f level v = .ofValue (v.withNumbers f)
  | .null, _, _ | .bool _, _, _ | .number _, _, _ | .string _, _, _ => rfl
  | .array items, level, shallow => by
      rw [nesting] at shallow
      rw [within, if_pos (by omega), items_within_shallow (by omega)]
      rfl
  | .object members, level, shallow => by
      rw [nesting] at shallow
      rw [within, if_pos (by omega), members_within_shallow (by omega)]
      rfl

theorem items_within_shallow : ∀ {items : List Json} {level : Nat}, level + nestingOfItems items ≤ depthLimit →
    itemsWithin f level items = ofItems (itemsWithNumbers f items)
  | [], _, _ => rfl
  | _ :: _, _, shallow => by
      rw [nestingOfItems] at shallow
      exact congrArg₂ List.cons (within_shallow (by omega)) (items_within_shallow (by omega))

theorem members_within_shallow : ∀ {members : List (String × Json)} {level : Nat},
    level + nestingOfMembers members ≤ depthLimit → membersWithin f level members = ofMembers (membersWithNumbers f members)
  | [], _, _ => rfl
  | (k, _) :: _, _, shallow => by
      rw [nestingOfMembers] at shallow
      exact congrArg₂ (fun d rest => (k, d) :: rest) (within_shallow (by omega)) (members_within_shallow (by omega))
end

mutual
theorem within_deep : ∀ {v : Json} {level : Nat}, level ≤ depthLimit → depthLimit < level + v.nesting →
    (within f level v).value? = none
  | .null, _, _, _ | .bool _, _, _, _ | .number _, _, _, _ | .string _, _, _, _ => by simp only [nesting] at *; omega
  | .array items, level, _, deep => by
      rw [nesting] at deep
      rw [within]
      split
      · rw [value?, items_within_deep (by omega) (by omega)]
        rfl
      · rfl
  | .object members, level, _, deep => by
      rw [nesting] at deep
      rw [within]
      split
      · rw [value?, members_within_deep (by omega) (by omega)]
        rfl
      · rfl

theorem items_within_deep : ∀ {items : List Json} {level : Nat}, level ≤ depthLimit →
    depthLimit < level + nestingOfItems items → itemValues? (itemsWithin f level items) = none
  | [], _, _, _ => by simp only [nestingOfItems] at *; omega
  | v :: rest, level, inside, deep => by
      rw [nestingOfItems] at deep
      rw [itemsWithin, itemValues?]
      by_cases here : depthLimit < level + v.nesting
      · rw [within_deep inside here]
        rfl
      · have later : itemValues? (itemsWithin f level rest) = none := items_within_deep inside (by omega)
        rw [later]
        cases (within f level v).value? <;> rfl

theorem members_within_deep : ∀ {members : List (String × Json)} {level : Nat}, level ≤ depthLimit →
    depthLimit < level + nestingOfMembers members → memberValues? (membersWithin f level members) = none
  | [], _, _, _ => by simp only [nestingOfMembers] at *; omega
  | (k, v) :: rest, level, inside, deep => by
      rw [nestingOfMembers] at deep
      rw [membersWithin, memberValues?]
      by_cases here : depthLimit < level + v.nesting
      · rw [within_deep inside here]
        rfl
      · have later : memberValues? (membersWithin f level rest) = none := members_within_deep inside (by omega)
        rw [later]
        cases (within f level v).value? <;> rfl
end

end Draft

/-! Reading tokens -/

namespace Reading

def Takes (r : Reading) (ts : List Token) (after : Reading) : Prop := ts.foldlM step r = some after

variable {r s after : Reading} {t : Token} {ts us : List Token} {outer : List Frame}

theorem takes_token (first : step r t = some s) (later : Takes s ts after) : Takes r (t :: ts) after := by
  rw [Takes, List.foldlM_cons, first]
  exact later

theorem takes_both (first : Takes r ts s) (later : Takes s us after) : Takes r (ts ++ us) after := by
  rw [Takes, List.foldlM_append, first]
  exact later

theorem takes_last (first : Takes r ts s) (last : step s t = some after) : Takes r (ts ++ [t]) after :=
  takes_both first (takes_token last rfl)

theorem takes_first {v : Json} {before : List Draft} (takes : Takes ⟨.items before :: outer, .value⟩ (tokensOf v) after) :
    Takes ⟨.items before :: outer, .firstItem⟩ (tokensOf v) after := by
  cases v <;> exact takes

def membersKept (members : List (String × Draft)) : List (Option String × Draft) := members.map fun e => (some e.1, e.2)

theorem closed_members (members : List (String × Draft)) : closeMembers (membersKept members) = some members := by
  induction members with
  | nil => rfl
  | cons e rest ih => rw [membersKept, List.map_cons, closeMembers, ← membersKept, ih, Option.map_some]

end Reading

open Reading

mutual
theorem value_taken : ∀ (v : Json) (outer : List Frame), (∀ n ∈ v.numbers, n.reread = some (f n)) →
    Takes ⟨outer, .value⟩ (tokensOf v) (deliver outer (Draft.within f outer.length v))
  | .null, _, _ | .bool _, _, _ | .string _, _, _ => rfl
  | .number n, outer, reads => by
      rw [tokensOf, reads n (List.mem_singleton_self n)]
      rfl
  | .array [], outer, _ => takes_token rfl (takes_token rfl rfl)
  | .array (v :: rest), outer, reads => by
      have inside := items_taken (v :: rest) (List.cons_ne_nil _ _) [] outer .firstItem (Or.inr rfl) reads
      refine takes_token rfl (takes_last inside (congrArg some ?_))
      rw [closeArray, List.append_nil, List.reverse_reverse]
      rfl
  | .object [], outer, _ => takes_token rfl (takes_token rfl rfl)
  | .object (e :: rest), outer, reads => by
      obtain ⟨key, inside⟩ :=
        members_taken (e :: rest) (List.cons_ne_nil _ _) [] none outer .firstKey (Or.inr rfl) reads
      refine takes_token rfl (takes_last inside (congrArg some ?_))
      rw [closeObject, List.append_nil, List.reverse_reverse, closed_members]
      rfl

theorem items_taken : ∀ (items : List Json), items ≠ [] → ∀ (before : List Draft) (outer : List Frame) (expected : Expected),
    expected = .value ∨ expected = .firstItem → (∀ n ∈ numbersOfItems items, n.reread = some (f n)) →
    Takes ⟨.items before :: outer, expected⟩ (tokensOfItems items)
      ⟨.items ((Draft.itemsWithin f (outer.length + 1) items).reverse ++ before) :: outer, .separator⟩
  | [], filled, _, _, _, _, _ => absurd rfl filled
  | v :: rest, _, before, outer, expected, place, reads => by
      have first : Takes ⟨.items before :: outer, .value⟩ (tokensOf v) _ :=
        value_taken v _ (among_items reads).1
      have here : Takes ⟨.items before :: outer, expected⟩ (tokensOf v)
          ⟨.items (Draft.within f (outer.length + 1) v :: before) :: outer, .separator⟩ := by
        rcases place with rfl | rfl
        · exact first
        · exact takes_first first
      cases rest with
      | nil => exact here
      | cons w rest =>
          have later := items_taken (w :: rest) (List.cons_ne_nil _ _) (Draft.within f (outer.length + 1) v :: before)
            outer .value (Or.inl rfl) (among_items reads).2
          have whole := takes_both here (takes_token (t := .comma) rfl later)
          rw [Draft.itemsWithin, List.reverse_cons, List.append_assoc]
          exact whole

theorem members_taken : ∀ (members : List (String × Json)), members ≠ [] →
    ∀ (before : List (Option String × Draft)) (key : Option String) (outer : List Frame) (expected : Expected),
    expected = .key ∨ expected = .firstKey → (∀ n ∈ numbersOfMembers members, n.reread = some (f n)) →
    ∃ last, Takes ⟨.members before key :: outer, expected⟩ (tokensOfMembers members)
      ⟨.members ((membersKept (Draft.membersWithin f (outer.length + 1) members)).reverse ++ before) last :: outer, .separator⟩
  | [], filled, _, _, _, _, _, _ => absurd rfl filled
  | (k, v) :: rest, _, before, key, outer, expected, place, reads => by
      have value : Takes ⟨.members before (some k) :: outer, .value⟩ (tokensOf v) _ :=
        value_taken v _ (among_members reads).1
      have here : Takes ⟨.members before key :: outer, expected⟩ (.string (some k) :: .colon :: tokensOf v)
          ⟨.members ((some k, Draft.within f (outer.length + 1) v) :: before) (some k) :: outer, .separator⟩ := by
        rcases place with rfl | rfl
        · exact takes_token rfl (takes_token rfl value)
        · exact takes_token rfl (takes_token rfl value)
      cases rest with
      | nil => exact ⟨some k, here⟩
      | cons e rest =>
          obtain ⟨last, later⟩ := members_taken (e :: rest) (List.cons_ne_nil _ _)
            ((some k, Draft.within f (outer.length + 1) v) :: before) (some k) outer .key (Or.inl rfl)
            (among_members reads).2
          have whole := takes_both here (takes_token (t := .comma) rfl later)
          refine ⟨last, ?_⟩
          rw [Draft.membersWithin, membersKept, List.map_cons, List.reverse_cons, List.append_assoc]
          exact whole
end

theorem tokens_drafted {v : Json} {text : List Char} (cut : tokens text = some (tokensOf v))
    (reads : ∀ n ∈ v.numbers, n.reread = some (f n)) : Draft.ofChars? text = some (Draft.within f 0 v) := by
  have taken : Takes .start (tokensOf v) ⟨[], .nothing (Draft.within f 0 v)⟩ := value_taken v [] reads
  rw [Draft.ofChars?, cut, Option.bind_some, Draft.ofTokens?]
  rw [Takes] at taken
  rw [taken]
  rfl

section

variable {v : Json} {text : List Char} (spells : Spells text (tokensOf v)) (reads : ∀ n ∈ v.numbers, n.reread = some (f n))
include spells reads

theorem spelling_drafted : Draft.parse? (String.ofList text) = some (Draft.within f 0 v) := by
  rw [Draft.parse?, String.toList_ofList, tokens_drafted (tokens_of_spelling spells) reads]

theorem spelling_read (canonical : v.Canonical) (shallow : v.nesting ≤ depthLimit) :
    parse? (String.ofList text) = some (v.withNumbers f) := by
  rw [parse?, spelling_drafted spells reads, Option.bind_some, Draft.within_shallow (by omega),
    value_of_draft (canonical_with_numbers canonical)]

theorem spelling_unread (deep : depthLimit < v.nesting) : parse? (String.ofList text) = none := by
  rw [parse?, spelling_drafted spells reads, Option.bind_some, Draft.within_deep (Nat.zero_le _) (by omega)]

end

/-! Values read again -/

def reread (v : Json) : Json := v.withNumbers fun n => n.reread.getD n

theorem legible_reads {v : Json} (legible : v.Legible) : ∀ n ∈ v.numbers, n.reread = some (n.reread.getD n) := by
  intro n member
  obtain ⟨m, read⟩ := Option.isSome_iff_exists.mp (legible n member)
  rw [read, Option.getD_some]

variable {v : Json}

theorem text_read (legible : v.Legible) (canonical : v.Canonical) (shallow : v.nesting ≤ depthLimit) :
    parse? v.text = some v.reread :=
  spelling_read (value_spelled v legible) (legible_reads legible) canonical shallow

theorem pretty_text_read (legible : v.Legible) (canonical : v.Canonical) (shallow : v.nesting ≤ depthLimit) :
    parse? v.prettyText = some v.reread :=
  spelling_read (pretty_spelled 0 v legible) (legible_reads legible) canonical shallow

theorem pretty_text_unread (legible : v.Legible) (deep : depthLimit < v.nesting) : parse? v.prettyText = none :=
  spelling_unread (pretty_spelled 0 v legible) (legible_reads legible) deep

def Integral (v : Json) : Prop := ∀ n ∈ v.numbers, n.integer?.isSome = true

instance (v : Json) : Decidable v.Integral := inferInstanceAs (Decidable (∀ n ∈ v.numbers, n.integer?.isSome = true))

theorem integer_read {n : Number} (integral : n.integer?.isSome = true) : n.reread = some n := by
  cases n with
  | integer i fits => exact Number.reread_integer i fits
  | float b => cases integral

theorem integral_legible (integral : v.Integral) : v.Legible := by
  intro n member
  rw [integer_read (integral n member)]
  rfl

theorem integral_reread (integral : v.Integral) : v.reread = v := by
  refine same_numbers fun n member => ?_
  rw [integer_read (integral n member), Option.getD_some]

end Json

end SearchStore

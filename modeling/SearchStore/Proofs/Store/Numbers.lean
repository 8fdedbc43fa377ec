import Mathlib.Algebra.Group.Nat.Defs
import Mathlib.Order.Bounds.Basic
import SearchStore.Proofs.Store.Catalog
import SearchStore.Proofs.Store.Rows

/-!
Drawing numbers for ids. The counter has 64 bits and goes on by one until its number is no id of the
table. Nothing bounds the loop but the rows: one of the numbers that come next is free, for there are more
of them than rows. As long as they are within the 64 bits the loop ends with the first that is free, and
the counter overflows where the last of them is taken.
-/

set_option autoImplicit false

namespace SearchStore

-- A table with the counter it is stored with.
structure CountedTable where
  drawn : UInt64
  rows : List Document
deriving DecidableEq

-- The next number. What comes after the greatest depends on whether overflow is checked: the program stops, or it
-- goes on with a number, zero when the counter starts anew.
def increment (overflow : Option UInt64) (c : UInt64) : Option UInt64 :=
  if c.toNat + 1 < 2 ^ 64 then some (c + 1) else overflow

-- The loop that draws numbers: from which one, how often, and with which it ends.
inductive Draws (overflow : Option UInt64) (ids : List String) : UInt64 → Nat → UInt64 → Prop where
  | free (c n : UInt64) (next : increment overflow c = some n) (free : toString n ∉ ids) : Draws overflow ids c 1 n
  | taken (c n last : UInt64) (draws : Nat) (next : increment overflow c = some n) (taken : toString n ∈ ids)
      (on : Draws overflow ids n draws last) : Draws overflow ids c (draws + 1) last

-- The insertion of a document without an id.
structure CountedTable.Inserts (overflow : Option UInt64) (t : CountedTable) (source : Json) (draws : Nat) (d : Document)
    (after : CountedTable) : Prop where
  draws : Draws overflow (t.rows.map (·.id)) t.drawn draws after.drawn
  document : d = ⟨toString after.drawn, source, 1⟩
  rows : after.rows = t.rows ++ [d]

section

variable {overflow : Option UInt64} {ids : List String} {c n m : UInt64} {draws more : Nat}

theorem increment_within (overflow : Option UInt64) (room : c.toNat + 1 < 2 ^ 64) :
    increment overflow c = some (c + 1) ∧ (c + 1).toNat = c.toNat + 1 := by
  refine ⟨if_pos room, ?_⟩
  rw [UInt64.toNat_add]
  exact Nat.mod_eq_of_lt room

theorem draws_free (drawn : Draws overflow ids c draws n) : toString n ∉ ids := by
  induction drawn with
  | free _ _ _ free => exact free
  | taken _ _ _ _ _ _ _ ih => exact ih

theorem draws_unique (drawn : Draws overflow ids c draws n) (other : Draws overflow ids c more m) : more = draws ∧ m = n := by
  induction drawn generalizing more m with
  | free c n next free =>
      cases other with
      | free _ _ next' => exact ⟨rfl, Option.some.inj (next'.symm.trans next)⟩
      | taken _ _ _ _ next' taken =>
          cases Option.some.inj (next'.symm.trans next)
          exact absurd taken free
  | taken c n last draws next taken _ ih =>
      cases other with
      | free _ _ next' free =>
          cases Option.some.inj (next'.symm.trans next)
          exact absurd taken free
      | taken _ _ _ _ next' _ on =>
          cases Option.some.inj (next'.symm.trans next)
          obtain ⟨rfl, rfl⟩ := ih on
          exact ⟨rfl, rfl⟩

theorem draws_to_free (overflow : Option UInt64) (room : c.toNat + draws + 1 < 2 ^ 64)
    (taken : ∀ k, c.toNat < k → k < c.toNat + draws + 1 → toString k ∈ ids) (free : toString (c.toNat + draws + 1) ∉ ids) :
    ∃ n, Draws overflow ids c (draws + 1) n ∧ n.toNat = c.toNat + draws + 1 := by
  induction draws generalizing c with
  | zero =>
      obtain ⟨next, number⟩ := increment_within overflow room
      refine ⟨c + 1, .free c _ next ?_, number⟩
      change toString (c + 1).toNat ∉ ids
      rwa [number]
  | succ draws ih =>
      obtain ⟨next, number⟩ := increment_within (c := c) overflow (by omega)
      have same : (c + 1).toNat + draws + 1 = c.toNat + (draws + 1) + 1 := by omega
      obtain ⟨n, drawn, reached⟩ := ih (c := c + 1) (by omega) (fun k after less => taken k (by omega) (by omega)) (by rwa [same])
      refine ⟨n, .taken c _ n _ next ?_ drawn, reached.trans same⟩
      change toString (c + 1).toNat ∈ ids
      rw [number]
      exact taken _ (Nat.lt_succ_self _) (by omega)

end

namespace CountedTable

-- The same table with a counter that has no end.
def unbounded (t : CountedTable) : Table := ⟨t.drawn.toNat, t.rows⟩

end CountedTable

theorem Table.next_free_near (t : Table) : t.nextFree ≤ t.drawn + t.rows.length + 1 := by
  by_contra far
  obtain ⟨k, bound, free⟩ := t.free_candidate
  have taken := t.next_free_least.2.2 (t.drawn + 1 + k) (by omega) (by omega)
  rw [free] at taken
  cases taken

theorem Table.next_free_is_least (t : Table) : IsLeast {k | t.drawn < k ∧ toString k ∉ t.ids} t.nextFree := by
  obtain ⟨after, free, before⟩ := t.next_free_least
  constructor
  · exact ⟨after, mt has_id.mpr (ne_true_of_eq_false free)⟩
  · rintro k ⟨later, untaken⟩
    by_contra early
    exact untaken (has_id.mp (before k later (Nat.lt_of_not_le early)))

theorem Memory.unnamed_inserted (m : Memory) (r : Relation) (source : Json) :
    let d : Document := ⟨toString (m.table r).nextFree, source, 1⟩
    ∃ m', m.insertDocument r none source = (some d, m') ∧ m'.table r = ⟨(m.table r).nextFree, (m.table r).rows ++ [d]⟩ ∧
      ∀ q : Relation, q.table ≠ r.table → m'.table q = m.table q :=
  ⟨_, rfl, table_set_same _, fun _ apart => table_set_other _ apart⟩

namespace CountedTable

theorem draws_next_free (overflow : Option UInt64) (t : CountedTable) (room : t.unbounded.nextFree < 2 ^ 64) :
    ∃ n draws, Draws overflow (t.rows.map (·.id)) t.drawn draws n ∧ n.toNat = t.unbounded.nextFree ∧
      n.toNat = t.drawn.toNat + draws := by
  obtain ⟨⟨after, free⟩, least⟩ := t.unbounded.next_free_is_least
  obtain ⟨gap, first⟩ : ∃ gap, t.unbounded.nextFree = t.drawn.toNat + gap + 1 := Nat.exists_eq_add_of_lt after
  rw [first] at room free least ⊢
  have taken : ∀ k, t.drawn.toNat < k → k < t.drawn.toNat + gap + 1 → toString k ∈ t.rows.map (·.id) := by
    intro k above below
    by_contra untaken
    exact absurd (least ⟨above, untaken⟩) (Nat.not_le_of_lt below)
  obtain ⟨n, drawn, number⟩ := draws_to_free overflow room taken free
  exact ⟨n, gap + 1, drawn, number, number⟩

/-- A document without an id gets the first number after the counter that is no id, after one draw more than there
are rows at most, if as many numbers are left. This is what is done in memory. -/
theorem unnamed_row_numbered (overflow : Option UInt64) (t : CountedTable) (source : Json)
    (room : t.drawn.toNat + t.rows.length + 1 < 2 ^ 64) :
    ∃ (n : UInt64) (draws : Nat),
      t.Inserts overflow source draws ⟨toString n, source, 1⟩ ⟨n, t.rows ++ [⟨toString n, source, 1⟩]⟩ ∧
      (∀ more d after, t.Inserts overflow source more d after →
        more = draws ∧ d = ⟨toString n, source, 1⟩ ∧ after = ⟨n, t.rows ++ [⟨toString n, source, 1⟩]⟩) ∧
      draws ≤ t.rows.length + 1 ∧ n.toNat = t.drawn.toNat + draws ∧
      IsLeast {k | t.drawn.toNat < k ∧ toString k ∉ t.rows.map (·.id)} n.toNat ∧
      ∀ (m : Memory) (r : Relation), m.table r = t.unbounded →
        ∃ m', m.insertDocument r none source = (some ⟨toString n, source, 1⟩, m') ∧
          m'.table r = (⟨n, t.rows ++ [⟨toString n, source, 1⟩]⟩ : CountedTable).unbounded ∧
          ∀ q : Relation, q.table ≠ r.table → m'.table q = m.table q := by
  have near : t.unbounded.nextFree ≤ t.drawn.toNat + t.rows.length + 1 := t.unbounded.next_free_near
  obtain ⟨n, draws, drawn, number, counts⟩ := t.draws_next_free overflow (near.trans_lt room)
  have text : toString n = toString t.unbounded.nextFree := congrArg toString number
  refine ⟨n, draws, ⟨drawn, rfl, rfl⟩, ?_, by omega, counts, ?_, ?_⟩
  · rintro more d ⟨last, rows⟩ ⟨again, rfl, appended⟩
    obtain ⟨rfl, rfl⟩ := draws_unique drawn again
    exact ⟨rfl, rfl, congrArg (CountedTable.mk last) appended⟩
  · rw [number]
    exact t.unbounded.next_free_is_least
  · intro m r same
    obtain ⟨m', inserted, kept, others⟩ := m.unnamed_inserted r source
    rw [same] at inserted kept
    refine ⟨m', ?_, ?_, others⟩
    · rw [inserted, text]
    · rw [kept, text]
      exact congrArg (Table.mk · _) number.symm

def leadingZero : CountedTable := ⟨0, [⟨"3", .null, 1⟩, ⟨"02", .null, 1⟩, ⟨"1", .null, 1⟩]⟩

theorem leading_zero_numbered : leadingZero.drawn.toNat + leadingZero.rows.length + 1 < 2 ^ 64 ∧
    leadingZero.Inserts none .null 2 ⟨"2", .null, 1⟩ ⟨2, leadingZero.rows ++ [⟨"2", .null, 1⟩]⟩ := by
  have room : leadingZero.drawn.toNat + leadingZero.rows.length + 1 < 2 ^ 64 := by decide
  obtain ⟨n, draws, inserts, -, -, counts, ⟨⟨after, free⟩, least⟩, -⟩ := unnamed_row_numbered none leadingZero .null room
  have below : n.toNat ≤ 2 := least ⟨by decide, by decide⟩
  have other : n.toNat ≠ 1 := by
    intro one
    rw [one] at free
    exact free (by decide)
  have zero : leadingZero.drawn.toNat = 0 := rfl
  obtain rfl : draws = 2 := by omega
  obtain rfl : n = 2 := UInt64.toNat_inj.mp (show n.toNat = 2 by omega)
  exact ⟨room, inserts⟩

def nearlyFull : CountedTable := ⟨18446744073709551614, [⟨"18446744073709551615", .null, 1⟩]⟩

/-- No number is left: none that the loop ends with is after the counter, whatever an overflow does. It does not end
at all if overflow is checked, and ends with zero if the counter starts anew. -/
theorem counter_overflows :
    nearlyFull.drawn.toNat + nearlyFull.rows.length < 2 ^ 64 ∧
    (∀ overflow draws d after, nearlyFull.Inserts overflow .null draws d after → ¬ nearlyFull.drawn < after.drawn) ∧
    (∀ draws d after, ¬ nearlyFull.Inserts none .null draws d after) ∧
    nearlyFull.Inserts (some 0) .null 2 ⟨"0", .null, 1⟩ ⟨0, nearlyFull.rows ++ [⟨"0", .null, 1⟩]⟩ := by
  have next (overflow : Option UInt64) : increment overflow nearlyFull.drawn = some 18446744073709551615 := rfl
  have taken : toString (18446744073709551615 : UInt64) ∈ nearlyFull.rows.map (·.id) := by decide
  have wraps (overflow : Option UInt64) : increment overflow 18446744073709551615 = overflow := rfl
  refine ⟨by decide, ?_, ?_, ⟨.taken _ _ _ _ (next _) taken (.free _ _ (wraps _) (by decide)), rfl, rfl⟩⟩
  · intro overflow draws d after inserts above
    have last : after.drawn = 18446744073709551615 := by
      have bound := after.drawn.toNat_lt
      have less := UInt64.lt_iff_toNat_lt.mp above
      have stands : nearlyFull.drawn.toNat = 18446744073709551614 := rfl
      exact UInt64.toNat_inj.mp (show after.drawn.toNat = 18446744073709551615 by omega)
    have free := draws_free inserts.draws
    rw [last] at free
    exact free taken
  · rintro draws d ⟨last, rows⟩ ⟨drawn, -, -⟩
    cases drawn with
    | free _ _ next' free =>
        cases Option.some.inj (next'.symm.trans (next none))
        exact free taken
    | taken _ _ _ _ next' _ on =>
        cases Option.some.inj (next'.symm.trans (next none))
        cases on with
        | free _ _ none => cases none
        | taken _ _ _ _ none => cases none

end CountedTable

end SearchStore

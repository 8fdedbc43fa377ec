import Mathlib.Data.List.Sort
import Mathlib.Data.String.Basic
import SearchStore.Proofs.Sql.Server
import SearchStore.Proofs.Store.Effects
import SearchStore.Proofs.Text.Wildcards

/-!
Names listed by a database and names listed in memory: `LIKE` matches what the wildcard pattern does,
and names sorted are those the catalog keeps in order.
-/

set_option autoImplicit false

namespace SearchStore

namespace Sql

open Pattern

theorem after_first_iff {meets : Char → Bool} {later : List Char → Bool} {text : List Char} :
    afterFirst meets later text = true ↔ ∃ c rest, text = c :: rest ∧ meets c = true ∧ later rest = true := by
  cases text with
  | nil => simp [afterFirst]
  | cons c rest => simp [afterFirst]

theorem stands_for_one {wanted : Char → Prop} {wildcard text : List Char} {c : Char}
    (single : ∀ run, StandsFor c run ↔ ∃ d, run = [d] ∧ wanted d) :
    (∃ run rest, text = run ++ rest ∧ StandsFor c run ∧ Wildcard wildcard rest) ↔
      ∃ d rest, text = d :: rest ∧ wanted d ∧ Wildcard wildcard rest := by
  simp only [single]
  constructor
  · rintro ⟨_, rest, split, ⟨d, rfl, holds⟩, later⟩
    exact ⟨d, rest, split, holds, later⟩
  · rintro ⟨d, rest, split, holds, later⟩
    exact ⟨[d], rest, split, ⟨d, rfl, holds⟩, later⟩

theorem likes_wildcard (wildcard text : List Char) :
    likes false (wildcard.flatMap likeOf) text = true ↔ Wildcard wildcard text := by
  induction wildcard generalizing text with
  | nil => simp [likes, Wildcard]
  | cons c later ih =>
      rw [List.flatMap_cons, Wildcard]
      by_cases any : c = '*'
      · subst any
        have every (run : List Char) : StandsFor '*' run := trivial
        simp only [likeOf, if_true, List.singleton_append, likes, Bool.false_eq_true, if_false, List.any_eq_true, List.mem_tails, ih]
        constructor
        · rintro ⟨rest, ⟨run, rfl⟩, fits⟩
          exact ⟨run, rest, rfl, every run, fits⟩
        · rintro ⟨run, rest, rfl, -, fits⟩
          exact ⟨rest, ⟨run, rfl⟩, fits⟩
      · by_cases one : c = '?'
        · have single (run : List Char) : StandsFor c run ↔ ∃ d, run = [d] ∧ True := by
            rw [StandsFor, if_neg any, if_pos one, List.length_eq_one_iff]
            simp
          rw [stands_for_one single]
          simp [one, likeOf, likes, after_first_iff, ih]
        · have single (run : List Char) : StandsFor c run ↔ ∃ d, run = [d] ∧ d = c := by
            rw [StandsFor, if_neg any, if_neg one]
            simp
          rw [stands_for_one single]
          -- A character that `LIKE` would read otherwise is escaped, another stands as it is.
          by_cases special : c = '%' ∨ c = '_' ∨ c = '\\'
          · simp [any, one, special, likeOf, likes, after_first_iff, ih]
          · have plain := not_or.mp special
            have others := not_or.mp plain.2
            simp [any, one, plain.1, others.1, others.2, likeOf, likes, after_first_iff, ih]

theorem likes_accepts (wildcard name : String) :
    likes false (ofWildcard wildcard).text name.toList = (ofWildcard wildcard).accepts name := by
  rw [Bool.eq_iff_iff, wildcard_accepts_iff]
  exact likes_wildcard wildcard.toList name.toList

end Sql

namespace Text

variable {a b c : String}

theorem before_irrefl (a : String) : before a a = false := precedes_irrefl a.toList

theorem before_asymm (less : before a b = true) : before b a = false := by
  by_contra more
  rw [Bool.not_eq_false] at more
  have loop := before_trans less more
  rw [before_irrefl] at loop
  cases loop

def atMost (a b : String) : Bool := !before b a

theorem at_most_iff : atMost a b = true ↔ before b a = false := by simp [atMost]

theorem at_most_total (a b : String) : (atMost a b || atMost b a) = true := by
  rw [Bool.or_eq_true, at_most_iff, at_most_iff]
  cases less : before b a with
  | false => exact Or.inl rfl
  | true => exact Or.inr (before_asymm less)

theorem at_most_trans (first : atMost a b = true) (second : atMost b c = true) : atMost a c = true := by
  rw [at_most_iff] at first second ⊢
  by_contra less
  rw [Bool.not_eq_false] at less
  by_cases equal : a = b
  · rw [equal, second] at less
    cases less
  · have before : Text.before a b = true := (before_total equal).resolve_right (by rw [first]; exact Bool.false_ne_true)
    rw [before_trans less before] at second
    cases second

theorem at_most_antisymm (first : atMost a b = true) (second : atMost b a = true) : a = b := by
  rw [at_most_iff] at first second
  by_contra apart
  rcases before_total apart with less | less
  · rw [less] at second
    cases second
  · rw [less] at first
    cases first

end Text

namespace Sql

theorem ordered_names {names sorted : List String} (distinct : names.Nodup)
    (inOrder : sorted.Pairwise fun a b => Text.before a b = true) (same : ∀ n, n ∈ names ↔ n ∈ sorted) :
    orderByName names = sorted := by
  have unique : sorted.Nodup := inOrder.imp fun {a b} less equal => by
    rw [equal, Text.before_irrefl] at less
    cases less
  have permuted : (orderByName names).Perm sorted :=
    (List.mergeSort_perm names _).trans ((List.perm_ext_iff_of_nodup distinct unique).mpr same)
  have arranged : (names.mergeSort Text.atMost).Pairwise fun a b => Text.atMost a b = true :=
    List.pairwise_mergeSort (fun a b c => @Text.at_most_trans a b c) Text.at_most_total names
  have wanted : sorted.Pairwise fun a b => Text.atMost a b = true :=
    inOrder.imp fun less => Text.at_most_iff.mpr (Text.before_asymm less)
  exact permuted.eq_of_pairwise (fun _ _ _ _ => Text.at_most_antisymm) arranged wanted

end Sql

end SearchStore

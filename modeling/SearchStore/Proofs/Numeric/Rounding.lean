import Mathlib.Algebra.Order.Floor.Semifield
import Mathlib.Data.Rat.Floor
import Mathlib.Tactic.FieldSimp
import Mathlib.Tactic.GCongr
import Mathlib.Tactic.Linarith
import Mathlib.Tactic.Positivity
import Mathlib.Tactic.Ring
import SearchStore.Numeric.Binary

/-!
Rounding to a binary format. What is rounded is a value of the format, and a value of the format is
rounded to itself, in whichever way it is written; so a number that is widened and narrowed again is
the same.
-/

set_option autoImplicit false

namespace SearchStore.Numeric

def Binary.magnitude (b : Binary) : ℚ := b.significand * 2 ^ b.exponent

structure Format.Holds (f : Format) (b : Binary) : Prop where
  short : b.significand < 2 ^ f.precision
  full : f.leastExponent < b.exponent → 2 ^ f.precision ≤ 2 * b.significand
  least : f.leastExponent ≤ b.exponent
  greatest : b.exponent ≤ f.greatestExponent

theorem two_zpow_pos (q : Int) : (0 : ℚ) < 2 ^ q := zpow_pos two_pos q

theorem two_zpow_sub (p q : Int) : (2 : ℚ) ^ p / 2 ^ q = 2 ^ (p - q) := (zpow_sub₀ two_ne_zero p q).symm

theorem zpow_toNat (q : Int) : ((Nat.pow 2 q.toNat : ℕ) : ℚ) / (Nat.pow 2 (-q).toNat : ℕ) = 2 ^ q := by
  have powers (n : Nat) : ((Nat.pow 2 n : ℕ) : ℚ) = 2 ^ (n : Int) := by
    rw [zpow_natCast]
    exact Nat.cast_pow 2 n
  rw [powers, powers, two_zpow_sub]
  congr 1
  omega

theorem Binary.ratio_eq (b : Binary) : (b.numerator : ℚ) / b.denominator = b.magnitude := by
  rw [numerator, denominator, Nat.cast_mul, mul_div_assoc, zpow_toNat, magnitude]

theorem Binary.denominator_pos (b : Binary) : 0 < b.denominator := Nat.pow_pos two_pos

theorem roundDiv_bounds (num den : Nat) : num / den ≤ roundDiv num den ∧ roundDiv num den ≤ num / den + 1 := by
  rw [roundDiv]
  split
  · exact ⟨Nat.le_refl _, Nat.le_succ _⟩
  · split
    · exact ⟨Nat.le_succ _, Nat.le_refl _⟩
    · split
      · exact ⟨Nat.le_refl _, Nat.le_succ _⟩
      · exact ⟨Nat.le_succ _, Nat.le_refl _⟩

theorem roundDiv_exact (m : Nat) {den : Nat} (positive : 0 < den) : roundDiv (m * den) den = m := by
  rw [roundDiv]
  simp [Nat.mul_div_cancel m positive, positive]

namespace Format

variable {f : Format} {num den : Nat} {b : Binary}

theorem scaled_pos (positive : 0 < den) (q : Int) : 0 < (scaled num den q).2 :=
  Nat.mul_pos positive (Nat.pow_pos two_pos)

theorem scaled_ratio (num den : Nat) (q : Int) :
    ((scaled num den q).1 : ℚ) / (scaled num den q).2 = num / den / 2 ^ q := by
  have inverse : (2 : ℚ) ^ q = (2 ^ (-q))⁻¹ := by rw [zpow_neg, inv_inv]
  rw [scaled, Nat.cast_mul, Nat.cast_mul, mul_div_mul_comm, inverse, div_inv_eq_mul, ← zpow_toNat (-q), neg_neg]

theorem scaled_quotient (num den : Nat) (q : Int) :
    (scaled num den q).1 / (scaled num den q).2 = ⌊(num : ℚ) / den / 2 ^ q⌋₊ := by
  rw [← scaled_ratio, Nat.floor_div_eq_div]

theorem ratio_bounds (above : 0 < num) (below : 0 < den) :
    (2 : ℚ) ^ ((num.log2 : Int) - den.log2 - 1) < num / den ∧
      (num : ℚ) / den < 2 ^ ((num.log2 : Int) - den.log2 + 1) := by
  have low (n : Nat) (positive : 0 < n) : (2 : ℚ) ^ (n.log2 : Int) ≤ n := by
    rw [zpow_natCast]
    exact_mod_cast Nat.log2_self_le positive.ne'
  have high (n : Nat) : (n : ℚ) < 2 ^ ((n.log2 : Int) + 1) := by
    have bound : n < 2 ^ (n.log2 + 1) := Nat.lt_log2_self
    exact_mod_cast bound
  have positive : (0 : ℚ) < den := by exact_mod_cast below
  constructor
  · rw [lt_div_iff₀ positive]
    calc (2 : ℚ) ^ ((num.log2 : Int) - den.log2 - 1) * den
        < 2 ^ ((num.log2 : Int) - den.log2 - 1) * 2 ^ ((den.log2 : Int) + 1) :=
          mul_lt_mul_of_pos_left (high den) (two_zpow_pos _)
      _ = 2 ^ (num.log2 : Int) := by rw [← zpow_add₀ two_ne_zero]; congr 1; ring
      _ ≤ num := low num above
  · rw [div_lt_iff₀ positive]
    calc (num : ℚ) < 2 ^ ((num.log2 : Int) + 1) := high num
      _ = 2 ^ ((num.log2 : Int) - den.log2 + 1) * 2 ^ (den.log2 : Int) := by
          rw [← zpow_add₀ two_ne_zero]; congr 1; ring
      _ ≤ 2 ^ ((num.log2 : Int) - den.log2 + 1) * den := mul_le_mul_of_nonneg_left (low den below) (two_zpow_pos _).le

def low (f : Format) (num den : Nat) : Int := max ((num.log2 : Int) - den.log2 - f.precision) f.leastExponent

def unit (f : Format) (num den : Nat) : Int :=
  if (scaled num den (f.low num den)).1 / (scaled num den (f.low num den)).2 < Nat.pow 2 f.precision then f.low num den
  else f.low num den + 1

def packed (f : Format) (negative : Bool) (m : Nat) (q : Int) : Rounded :=
  let carried := m == Nat.pow 2 f.precision
  let m := if carried then m / 2 else m
  let q := if carried then q + 1 else q
  if f.greatestExponent < q then .infinite negative else .finite ⟨negative, m, q⟩

theorem round_eq (f : Format) (negative : Bool) (above : 0 < num) (den : Nat) :
    f.round negative num den =
      f.packed negative (roundDiv (scaled num den (f.unit num den)).1 (scaled num den (f.unit num den)).2)
        (f.unit num den) := by
  rw [round, if_neg above.ne']
  rfl

theorem packed_short (negative : Bool) {m : Nat} (q : Int) (short : m ≠ 2 ^ f.precision) :
    f.packed negative m q = if f.greatestExponent < q then .infinite negative else .finite ⟨negative, m, q⟩ := by
  have short : (m == Nat.pow 2 f.precision) = false := beq_eq_false_iff_ne.mpr short
  rw [packed, short]
  rfl

theorem packed_carried (negative : Bool) (q : Int) :
    f.packed negative (2 ^ f.precision) q =
      if f.greatestExponent < q + 1 then .infinite negative else .finite ⟨negative, 2 ^ f.precision / 2, q + 1⟩ := by
  have carried : (2 ^ f.precision == Nat.pow 2 f.precision) = true := beq_self_eq_true _
  rw [packed, carried]
  rfl

theorem packed_holds (precise : 0 < f.precision) {negative : Bool} {m : Nat} {q : Int} (short : m ≤ 2 ^ f.precision)
    (full : f.leastExponent < q → 2 ^ f.precision ≤ 2 * m) (least : f.leastExponent ≤ q)
    (made : f.packed negative m q = .finite b) : f.Holds b := by
  by_cases carried : m = 2 ^ f.precision
  · subst carried
    rw [packed_carried] at made
    split at made
    · cases made
    · rename_i small
      cases made
      obtain ⟨p, exact⟩ := Nat.exists_eq_succ_of_ne_zero precise.ne'
      have even : 2 * (2 ^ f.precision / 2) = 2 ^ f.precision := by
        rw [exact, Nat.pow_succ, Nat.mul_div_cancel _ two_pos, Nat.mul_comm]
      have power : 0 < 2 ^ f.precision := Nat.two_pow_pos _
      exact ⟨Nat.div_lt_self power one_lt_two, fun _ => even.ge, Int.le_add_one least, not_lt.mp small⟩
  · rw [packed_short _ _ carried] at made
    split at made
    · cases made
    · rename_i small
      cases made
      exact ⟨lt_of_le_of_ne short carried, full, least, not_lt.mp small⟩

theorem unit_bounds (above : 0 < num) (below : 0 < den) :
    f.leastExponent ≤ f.unit num den ∧ (num : ℚ) / den / 2 ^ f.unit num den < 2 ^ f.precision ∧
      (f.leastExponent < f.unit num den → 2 ^ f.precision ≤ 2 * ((num : ℚ) / den / 2 ^ f.unit num den)) := by
  obtain ⟨lower, upper⟩ := ratio_bounds above below
  have least : f.leastExponent ≤ f.low num den := le_max_right ..
  have reach : (num.log2 : Int) - den.log2 - f.precision ≤ f.low num den := le_max_left ..
  have power : (2 : ℚ) ^ f.precision = 2 ^ (f.precision : Int) := (zpow_natCast 2 f.precision).symm
  have fits : (scaled num den (f.low num den)).1 / (scaled num den (f.low num den)).2 < Nat.pow 2 f.precision ↔
      (num : ℚ) / den / 2 ^ f.low num den < 2 ^ f.precision := by
    have ratio : (0 : ℚ) ≤ num / den / 2 ^ f.low num den :=
      div_nonneg (div_nonneg (Nat.cast_nonneg _) (Nat.cast_nonneg _)) (two_zpow_pos _).le
    have cast : ((Nat.pow 2 f.precision : ℕ) : ℚ) = 2 ^ f.precision := Nat.cast_pow 2 f.precision
    rw [scaled_quotient, Nat.floor_lt ratio, cast]
  rw [unit]
  split
  case isTrue tight =>
    refine ⟨least, fits.mp tight, fun inner => ?_⟩
    have exact : f.low num den = (num.log2 : Int) - den.log2 - f.precision := by
      rw [low] at inner ⊢
      omega
    rw [← mul_div_assoc, le_div_iff₀ (two_zpow_pos _), power, ← zpow_add₀ two_ne_zero, exact]
    calc (2 : ℚ) ^ ((f.precision : Int) + ((num.log2 : Int) - den.log2 - f.precision))
        = 2 * 2 ^ ((num.log2 : Int) - den.log2 - 1) := by rw [← zpow_one_add₀ two_ne_zero]; congr 1; ring
      _ ≤ 2 * (num / den) := by linarith
  case isFalse loose =>
    have wide : (2 : ℚ) ^ f.precision ≤ num / den / 2 ^ f.low num den := not_lt.mp (fits.not.mp loose)
    refine ⟨by omega, ?_, fun _ => ?_⟩
    · rw [div_lt_iff₀ (two_zpow_pos _), power, ← zpow_add₀ two_ne_zero]
      exact lt_of_lt_of_le upper (zpow_le_zpow_right₀ one_le_two (by omega))
    · have halved : 2 * ((num : ℚ) / den / 2 ^ (f.low num den + 1)) = num / den / 2 ^ f.low num den := by
        rw [zpow_add_one₀ two_ne_zero]
        field_simp
      rwa [halved]

theorem unit_of_holds (holds : f.Holds b) (above : 0 < num) (below : 0 < den)
    (same : (num : ℚ) / den = b.magnitude) : f.unit num den = b.exponent := by
  obtain ⟨least, short, full⟩ := unit_bounds (f := f) above below
  have scaled : (num : ℚ) / den / 2 ^ f.unit num den = b.significand * 2 ^ (b.exponent - f.unit num den) := by
    rw [same, Binary.magnitude, mul_div_assoc, two_zpow_sub]
  rw [scaled] at short full
  rcases lt_trichotomy (f.unit num den) b.exponent with less | equal | more
  · exfalso
    have enough : (2 : ℚ) ^ f.precision ≤ 2 * b.significand := by exact_mod_cast holds.full (lt_of_le_of_lt least less)
    have double : (2 : ℚ) ^ (1 : Int) ≤ 2 ^ (b.exponent - f.unit num den) := zpow_le_zpow_right₀ one_le_two (by omega)
    rw [zpow_one] at double
    nlinarith
  · exact equal
  · exfalso
    have little : (b.significand : ℚ) < 2 ^ f.precision := by exact_mod_cast holds.short
    have half : (2 : ℚ) ^ (b.exponent - f.unit num den) ≤ 2 ^ (-1 : Int) := zpow_le_zpow_right₀ one_le_two (by omega)
    have enough := full (lt_of_le_of_lt holds.least more)
    rw [zpow_neg_one] at half
    nlinarith

theorem round_exact (holds : f.Holds b) (above : 0 < num) (below : 0 < den)
    (same : (num : ℚ) / den = b.magnitude) : f.round b.negative num den = .finite b := by
  have unit := unit_of_holds holds above below same
  have ratio : (scaled num den b.exponent).1 = b.significand * (scaled num den b.exponent).2 := by
    have quotient : ((scaled num den b.exponent).1 : ℚ) / (scaled num den b.exponent).2 = b.significand := by
      rw [scaled_ratio, same, Binary.magnitude, mul_div_cancel_right₀ _ (two_zpow_pos _).ne']
    have nonzero : ((scaled num den b.exponent).2 : ℚ) ≠ 0 := by exact_mod_cast (scaled_pos below _).ne'
    exact_mod_cast (div_eq_iff nonzero).mp quotient
  rw [round_eq f b.negative above, unit, ratio, roundDiv_exact _ (scaled_pos below _), packed_short _ _ holds.short.ne,
    if_neg (not_lt.mpr holds.greatest)]

theorem round_holds (ordered : f.leastExponent ≤ f.greatestExponent) (precise : 0 < f.precision) {negative : Bool}
    (below : 0 < den) (rounded : f.round negative num den = .finite b) : f.Holds b := by
  by_cases nothing : num = 0
  · rw [round, if_pos nothing] at rounded
    cases rounded
    exact ⟨Nat.two_pow_pos _, fun more => absurd more (lt_irrefl _), le_refl _, ordered⟩
  · have above : 0 < num := Nat.pos_of_ne_zero nothing
    obtain ⟨least, short, full⟩ := unit_bounds (f := f) above below
    rw [round_eq f _ above] at rounded
    obtain ⟨floor, ceiling⟩ := roundDiv_bounds (scaled num den (f.unit num den)).1 (scaled num den (f.unit num den)).2
    rw [scaled_quotient] at floor ceiling
    have nonnegative : (0 : ℚ) ≤ num / den / 2 ^ f.unit num den :=
      div_nonneg (div_nonneg (Nat.cast_nonneg _) (Nat.cast_nonneg _)) (two_zpow_pos _).le
    refine packed_holds precise ?_ (fun more => ?_) least rounded
    · have bound : ⌊(num : ℚ) / den / 2 ^ f.unit num den⌋₊ < 2 ^ f.precision :=
        (Nat.floor_lt nonnegative).mpr (by exact_mod_cast short)
      omega
    · obtain ⟨p, exact⟩ := Nat.exists_eq_succ_of_ne_zero precise.ne'
      have half : 2 ^ p ≤ ⌊(num : ℚ) / den / 2 ^ f.unit num den⌋₊ := by
        refine Nat.le_floor ?_
        have enough := full more
        rw [exact, pow_succ] at enough
        push_cast
        linarith
      rw [exact, Nat.pow_succ]
      omega

theorem convert_exact (holds : f.Holds b) {c : Binary} (sign : c.negative = b.negative) (above : c.significand ≠ 0)
    (same : c.magnitude = b.magnitude) : f.convert (.finite c) = .finite b := by
  have numerator : 0 < c.numerator := Nat.mul_pos (Nat.pos_of_ne_zero above) (Nat.pow_pos two_pos)
  rw [convert, sign]
  exact round_exact holds numerator c.denominator_pos (c.ratio_eq.trans same)

theorem zero_of_holds (holds : f.Holds b) (nothing : b.significand = 0) : b = f.zero b.negative := by
  obtain ⟨negative, m, q⟩ := b
  cases nothing
  have power : 0 < 2 ^ f.precision := Nat.two_pow_pos _
  have least : q = f.leastExponent := by
    by_contra other
    exact absurd (holds.full (lt_of_le_of_ne holds.least (Ne.symm other))) (Nat.not_le.mpr power)
  rw [least]
  rfl

theorem convert_zero (f g : Format) (negative : Bool) :
    f.convert (.finite (g.zero negative)) = .finite (f.zero negative) := by
  have nothing : (g.zero negative).numerator = 0 := Nat.zero_mul _
  rw [convert, round, if_pos nothing]
  rfl

theorem single_widened (holds : single.Holds b) (nonzero : b.significand ≠ 0) :
    ∃ c, double.Holds c ∧ c.negative = b.negative ∧ c.magnitude = b.magnitude ∧ c.significand ≠ 0 := by
  have lead : b.significand.log2 < 24 := (Nat.log2_lt nonzero).mpr holds.short
  have low := Nat.mul_le_mul_right (2 ^ (52 - b.significand.log2)) (Nat.log2_self_le nonzero)
  have high := Nat.mul_lt_mul_of_pos_right (Nat.lt_log2_self (n := b.significand))
    (Nat.two_pow_pos (52 - b.significand.log2))
  rw [← Nat.pow_add] at low high
  rw [show b.significand.log2 + (52 - b.significand.log2) = 52 by omega] at low
  rw [show b.significand.log2 + 1 + (52 - b.significand.log2) = 53 by omega] at high
  have least : (-149 : Int) ≤ b.exponent := holds.least
  have greatest : b.exponent ≤ 104 := holds.greatest
  refine ⟨⟨b.negative, b.significand * 2 ^ (52 - b.significand.log2), b.exponent - (52 - b.significand.log2 : Nat)⟩,
    ⟨high, fun _ => ?_, ?_, ?_⟩, rfl, ?_, ?_⟩
  · change 2 ^ 53 ≤ 2 * (b.significand * 2 ^ (52 - b.significand.log2))
    omega
  · change (-1074 : Int) ≤ b.exponent - (52 - b.significand.log2 : Nat)
    omega
  · change b.exponent - (52 - b.significand.log2 : Nat) ≤ (971 : Int)
    omega
  · rw [Binary.magnitude, Binary.magnitude, zpow_sub₀ two_ne_zero, zpow_natCast]
    push_cast
    field_simp
  · exact Nat.mul_ne_zero nonzero (Nat.two_pow_pos _).ne'

theorem single_restored (holds : single.Holds b) :
    ∃ c, double.convert (.finite b) = .finite c ∧ single.convert (.finite c) = .finite b := by
  by_cases nothing : b.significand = 0
  · rw [zero_of_holds holds nothing]
    exact ⟨double.zero b.negative, convert_zero .., convert_zero ..⟩
  · obtain ⟨c, wide, sign, same, above⟩ := single_widened holds nothing
    exact ⟨c, convert_exact wide sign.symm nothing same.symm, convert_exact holds sign above same⟩

end Format

end SearchStore.Numeric

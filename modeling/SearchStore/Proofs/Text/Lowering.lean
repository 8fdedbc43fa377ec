import SearchStore.Text.Alphanumeric
import SearchStore.Text.Lowercase

/-!
Lowering one character. But for the dotted capital I, which becomes a letter and a mark, each character is
lowered to a single one, and that is a letter or digit exactly when the character is.
-/

set_option autoImplicit false

namespace SearchStore.Text

def dottedCapital : Char := Char.ofNat 0x130

def dotAbove : Char := Char.ofNat 0x307

-- Both ends lie in one of the ranges. The comparisons are those the kernel computes with.
def within (ranges : List (Nat × Nat)) (first last : Nat) : Bool :=
  ranges.any fun r => Nat.ble r.1 first && Nat.ble last r.2

def stretch (first last : Nat) : Bool :=
  if last < 0x1000 then within alphanumericLow first last
  else if last < 0x10000 then 0x1000 ≤ first && within alphanumericMiddle first last
  else 0x10000 ≤ first && within alphanumericHigh first last

theorem within_ranges {ranges : List (Nat × Nat)} {first last n : Nat} (inside : within ranges first last = true)
    (after : first ≤ n) (before : n ≤ last) : inRanges ranges n = true := by
  obtain ⟨r, member, ends⟩ := List.any_eq_true.mp inside
  rw [Bool.and_eq_true, Nat.ble_eq, Nat.ble_eq] at ends
  refine List.any_eq_true.mpr ⟨r, member, ?_⟩
  rw [Bool.and_eq_true, decide_eq_true_iff, decide_eq_true_iff]
  exact ⟨Nat.le_trans ends.1 after, Nat.le_trans before ends.2⟩

theorem stretch_letter {first last : Nat} (letters : stretch first last = true) {c : Char} (after : first ≤ c.toNat)
    (before : c.toNat ≤ last) : isAlphanumeric c = true := by
  rw [stretch] at letters
  rw [isAlphanumeric]
  split at letters
  · rw [if_pos (by omega)]
    exact within_ranges letters after before
  · split at letters
    · rw [Bool.and_eq_true, decide_eq_true_iff] at letters
      rw [if_neg (by omega), if_pos (by omega)]
      exact within_ranges letters.2 after before
    · rw [Bool.and_eq_true, decide_eq_true_iff] at letters
      rw [if_neg (by omega), if_neg (by omega)]
      exact within_ranges letters.2 after before

theorem to_nat_of_valid {n : Nat} (valid : n.isValidChar) : (Char.ofNat n).toNat = n := by
  rw [Char.ofNat, dif_pos valid]
  rfl

def CaseRun.lettered (r : CaseRun) : Bool :=
  (stretch r.first r.last ||
    (List.range (r.last - r.first + 1)).all fun k => k % r.stride != 0 || stretch (r.first + k) (r.first + k)) &&
  stretch r.image (r.image + (r.last - r.first)) &&
  (r.image + (r.last - r.first) < 0xD800 || 0xDFFF < r.image && r.image + (r.last - r.first) < 0x110000)

def asciiCapitals : CaseRun := ⟨0x41, 0x5A, 1, 0x61⟩

theorem runs_lettered : (asciiCapitals :: lowercaseRuns).all CaseRun.lettered = true := by decide +kernel

theorem run_letter {r : CaseRun} (run : r ∈ asciiCapitals :: lowercaseRuns) {c : Char} (covers : r.covers c.toNat = true) :
    isAlphanumeric c = true ∧ isAlphanumeric (Char.ofNat (r.image + (c.toNat - r.first))) = true := by
  have lettered := List.all_eq_true.mp runs_lettered r run
  simp only [CaseRun.lettered, Bool.and_eq_true, Bool.or_eq_true, decide_eq_true_iff] at lettered
  simp only [CaseRun.covers, Bool.and_eq_true, decide_eq_true_iff, beq_iff_eq] at covers
  obtain ⟨⟨capitals, images⟩, apart⟩ := lettered
  obtain ⟨⟨after, before⟩, step⟩ := covers
  constructor
  · rcases capitals with together | single
    · exact stretch_letter together after before
    · -- The capitals of the run do not stand side by side, so each was looked up.
      have alone := List.all_eq_true.mp single (c.toNat - r.first) (List.mem_range.mpr (by omega))
      simp only [step, bne_self_eq_false, Bool.false_or, Nat.add_sub_cancel' after] at alone
      exact stretch_letter alone (Nat.le_refl _) (Nat.le_refl _)
  · have valid : (r.image + (c.toNat - r.first)).isValidChar := by
      rw [Nat.isValidChar]
      omega
    have code := to_nat_of_valid valid
    exact stretch_letter images (by omega) (by omega)

theorem lower_char_single {c : Char} (undotted : c ≠ dottedCapital) :
    ∃ d, lowerChar c = [d] ∧ isAlphanumeric d = isAlphanumeric c := by
  rw [lowerChar]
  by_cases ascii : c.toNat < 0x80
  · rw [if_pos ascii]
    by_cases capital : 'A'.toNat ≤ c.toNat ∧ c.toNat ≤ 'Z'.toNat
    · rw [if_pos capital]
      have covers : asciiCapitals.covers c.toNat = true := by
        simp only [CaseRun.covers, asciiCapitals, Nat.mod_one, Bool.and_eq_true]
        exact ⟨⟨decide_eq_true capital.1, decide_eq_true capital.2⟩, rfl⟩
      obtain ⟨here, lowered⟩ := run_letter (List.mem_cons_self ..) covers
      have code : asciiCapitals.image + (c.toNat - asciiCapitals.first) = c.toNat + 0x20 := by
        have after : 0x41 ≤ c.toNat := capital.1
        simp only [asciiCapitals]
        omega
      exact ⟨_, rfl, by rw [← code, lowered, here]⟩
    · rw [if_neg capital]
      exact ⟨c, rfl, rfl⟩
  · rw [if_neg ascii, if_neg (fun code => undotted (by rw [dottedCapital, ← code, Char.ofNat_toNat]))]
    cases found : lowercaseRuns.find? (·.covers c.toNat) with
    | none => exact ⟨c, rfl, rfl⟩
    | some r =>
        have covers : r.covers c.toNat = true := by simpa using List.find?_some found
        obtain ⟨here, lowered⟩ := run_letter (List.mem_cons_of_mem _ (List.mem_of_find?_eq_some found)) covers
        exact ⟨_, rfl, lowered.trans here.symm⟩

theorem char_kinds (c : Char) : c = dottedCapital ∨ c = capitalSigma ∨
    c ≠ dottedCapital ∧ c ≠ capitalSigma ∧ ∃ d, lowerChar c = [d] ∧ isAlphanumeric d = isAlphanumeric c := by
  by_cases dotted : c = dottedCapital
  · exact .inl dotted
  · by_cases capital : c = capitalSigma
    · exact .inr (.inl capital)
    · exact .inr (.inr ⟨dotted, capital, lower_char_single dotted⟩)

end SearchStore.Text

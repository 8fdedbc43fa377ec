import Mathlib.Data.List.Basic
import SearchStore.Text.Percent

/-!
Texts come back from their octets, and from every way to write them in a path: a character stands for
itself or its octets are escaped, each by two hexadecimal digits in either case.
-/

set_option autoImplicit false

namespace SearchStore.Text

def Leads (octets : List Nat) (n : Nat) (rest : List Nat) : Prop :=
  ∃ first tail due low high, octets = first :: tail ∧ continuation first = some (due, low, high) ∧
    sequel (leadBits first) 1 low high due tail = .complete n rest

theorem sequel_step {code taken low high due b : Nat} {rest : List Nat} (above : low ≤ b) (below : b ≤ high) :
    sequel code taken low high (due + 1) (b :: rest) = sequel (code * 64 + (b - 0x80)) (taken + 1) 0x80 0xBF due rest := by
  rw [sequel, if_pos ⟨above, below⟩]

section

variable {n : Nat} (rest : List Nat)

theorem one_leads (below : n < 0x80) : Leads ([n] ++ rest) n rest := by
  refine ⟨n, rest, 0, 0, 0, rfl, ?_, ?_⟩
  · rw [continuation, if_pos below]
  · rw [leadBits, if_pos below, sequel]

theorem two_leads (above : 0x80 ≤ n) (below : n < 0x800) : Leads ([0xC0 + n / 64, 0x80 + n % 64] ++ rest) n rest := by
  refine ⟨_, (0x80 + n % 64) :: rest, 1, 0x80, 0xBF, rfl, ?_, ?_⟩
  · rw [continuation, if_neg (by omega), if_neg (by omega), if_pos (by omega)]
  · have whole : (0xC0 + n / 64 - 0xC0) * 64 + (0x80 + n % 64 - 0x80) = n := by omega
    rw [leadBits, if_neg (by omega), if_pos (by omega), sequel_step (by omega) (by omega), sequel, whole]

-- The range of the second octet leaves out what two octets stand for, and the surrogates.
theorem three_range (above : 0x800 ≤ n) (below : n < 0x10000) (valid : n < 0xD800 ∨ 0xDFFF < n) :
    ∃ low high, continuation (0xE0 + n / 4096) = some (2, low, high) ∧ low ≤ 0x80 + n / 64 % 64 ∧ 0x80 + n / 64 % 64 ≤ high := by
  by_cases least : n / 4096 = 0
  · refine ⟨0xA0, 0xBF, ?_, by omega, by omega⟩
    rw [least]
    rfl
  · by_cases surrogates : n / 4096 = 13
    · refine ⟨0x80, 0x9F, ?_, by omega, by omega⟩
      rw [surrogates]
      rfl
    · refine ⟨0x80, 0xBF, ?_, by omega, by omega⟩
      rw [continuation, if_neg (by omega), if_neg (by omega), if_neg (by omega), if_neg (by omega), if_neg (by omega),
        if_pos (by omega)]

theorem three_leads (above : 0x800 ≤ n) (below : n < 0x10000) (valid : n < 0xD800 ∨ 0xDFFF < n) :
    Leads ([0xE0 + n / 4096, 0x80 + n / 64 % 64, 0x80 + n % 64] ++ rest) n rest := by
  obtain ⟨low, high, ranged, least, greatest⟩ := three_range above below valid
  refine ⟨_, (0x80 + n / 64 % 64) :: (0x80 + n % 64) :: rest, 2, low, high, rfl, ranged, ?_⟩
  have whole : ((0xE0 + n / 4096 - 0xE0) * 64 + (0x80 + n / 64 % 64 - 0x80)) * 64 + (0x80 + n % 64 - 0x80) = n := by omega
  rw [leadBits, if_neg (by omega), if_neg (by omega), if_pos (by omega), sequel_step least greatest,
    sequel_step (by omega) (by omega), sequel, whole]

theorem four_range (above : 0x10000 ≤ n) (below : n < 0x110000) :
    ∃ low high, continuation (0xF0 + n / 262144) = some (3, low, high) ∧ low ≤ 0x80 + n / 4096 % 64 ∧
      0x80 + n / 4096 % 64 ≤ high := by
  by_cases least : n / 262144 = 0
  · refine ⟨0x90, 0xBF, ?_, by omega, by omega⟩
    rw [least]
    rfl
  · by_cases last : n / 262144 = 4
    · refine ⟨0x80, 0x8F, ?_, by omega, by omega⟩
      rw [last]
      rfl
    · refine ⟨0x80, 0xBF, ?_, by omega, by omega⟩
      rw [continuation, if_neg (by omega), if_neg (by omega), if_neg (by omega), if_neg (by omega), if_neg (by omega),
        if_neg (by omega), if_neg (by omega), if_pos (by omega)]

theorem four_leads (above : 0x10000 ≤ n) (below : n < 0x110000) :
    Leads ([0xF0 + n / 262144, 0x80 + n / 4096 % 64, 0x80 + n / 64 % 64, 0x80 + n % 64] ++ rest) n rest := by
  obtain ⟨low, high, ranged, least, greatest⟩ := four_range above below
  refine ⟨_, (0x80 + n / 4096 % 64) :: (0x80 + n / 64 % 64) :: (0x80 + n % 64) :: rest, 3, low, high, rfl, ranged, ?_⟩
  have whole : (((0xF0 + n / 262144 - 0xF0) * 64 + (0x80 + n / 4096 % 64 - 0x80)) * 64 + (0x80 + n / 64 % 64 - 0x80)) * 64 +
      (0x80 + n % 64 - 0x80) = n := by omega
  rw [leadBits, if_neg (by omega), if_neg (by omega), if_neg (by omega), sequel_step least greatest,
    sequel_step (by omega) (by omega), sequel_step (by omega) (by omega), sequel, whole]

end

theorem char_leads (c : Char) (rest : List Nat) : Leads (encodeChar c ++ rest) c.toNat rest := by
  have valid : c.toNat < 0xD800 ∨ 0xDFFF < c.toNat ∧ c.toNat < 0x110000 := c.valid
  rw [encodeChar]
  by_cases one : c.toNat < 0x80
  · simp only [if_pos one]
    exact one_leads rest one
  · by_cases two : c.toNat < 0x800
    · simp only [if_neg one, if_pos two]
      exact two_leads rest (by omega) two
    · by_cases three : c.toNat < 0x10000
      · simp only [if_neg one, if_neg two, if_pos three]
        exact three_leads rest (by omega) three (by omega)
      · simp only [if_neg one, if_neg two, if_neg three]
        exact four_leads rest (by omega) (by omega)

-- By induction on the text; a character takes one octet at least, so the bound is never met.
theorem decode_from_encoded (s : List Char) (bound sound : Nat) (enough : s.length ≤ bound) :
    decodeFrom bound sound (encodeUtf8 s) = .ok s := by
  induction s generalizing bound sound with
  | nil => cases bound <;> rfl
  | cons c rest ih =>
      cases bound with
      | zero => cases enough
      | succ bound =>
          obtain ⟨first, tail, due, low, high, octets, continued, complete⟩ := char_leads c (encodeUtf8 rest)
          have whole : encodeUtf8 (c :: rest) = first :: tail := by rw [encodeUtf8, List.flatMap_cons, ← encodeUtf8, octets]
          rw [whole, decodeFrom, continued]
          simp only [complete, ih bound _ (Nat.le_of_succ_le_succ enough), Char.ofNat_toNat]
          rfl

theorem encoded_length (s : List Char) : s.length ≤ (encodeUtf8 s).length := by
  induction s with
  | nil => exact Nat.le_refl 0
  | cons c rest ih =>
      obtain ⟨first, tail, _, _, _, octets, _, _⟩ := char_leads c []
      have one : encodeChar c = first :: tail := by rw [← octets, List.append_nil]
      rw [encodeUtf8, List.flatMap_cons, ← encodeUtf8, one, List.cons_append, List.length_cons, List.length_cons,
        List.length_append]
      omega

theorem decode_encoded (s : List Char) : decodeUtf8 (encodeUtf8 s) = .ok s :=
  decode_from_encoded s _ 0 (encoded_length s)

inductive Escapes : List Nat → List Char → Prop where
  | nil : Escapes [] []
  | octet (n : Nat) (h l : Char) (octets : List Nat) (written : List Char) (high : hexValue? h = some (n / 16))
      (low : hexValue? l = some (n % 16)) (later : Escapes octets written) :
      Escapes (n :: octets) ('%' :: h :: l :: written)

def isPlain (c : Char) : Bool := c != '%' && c != '/' && c != '?' && c != '#'

theorem plain_iff {c : Char} : isPlain c = true ↔ c ≠ '%' ∧ c ≠ '/' ∧ c ≠ '?' ∧ c ≠ '#' := by
  simp only [isPlain, Bool.and_eq_true, bne_iff_ne, and_assoc]

-- A text as it is written in a path, with any of its characters escaped, and at least those that are not
-- plain.
inductive Encodes : List Char → List Char → Prop where
  | nil : Encodes [] []
  | plain (c : Char) (text written : List Char) (plain : isPlain c = true) (later : Encodes text written) :
      Encodes (c :: text) (c :: written)
  | escaped (c : Char) (text escape written : List Char) (escaped : Escapes (encodeChar c) escape)
      (later : Encodes text written) : Encodes (c :: text) (escape ++ written)

theorem octets_of_escapes {octets : List Nat} {escape : List Char} (escapes : Escapes octets escape) (rest : List Char) :
    percentOctets (escape ++ rest) = octets ++ percentOctets rest := by
  induction escapes with
  | nil => rfl
  | octet n h l octets written high low later ih =>
      have whole : 16 * (n / 16) + n % 16 = n := Nat.div_add_mod n 16
      rw [List.cons_append, List.cons_append, List.cons_append, percentOctets, high, low]
      simp only [whole, ih, List.cons_append]

theorem octets_of_plain {c : Char} (unescaped : c ≠ '%') (rest : List Char) :
    percentOctets (c :: rest) = encodeChar c ++ percentOctets rest := by
  rw [percentOctets]
  rintro h l others same
  exact absurd same unescaped

theorem octets_of_encoding {text written : List Char} (encodes : Encodes text written) :
    percentOctets written = encodeUtf8 text := by
  induction encodes with
  | nil => rfl
  | plain c text written plain later ih =>
      rw [octets_of_plain (plain_iff.mp plain).1, ih, encodeUtf8, encodeUtf8, List.flatMap_cons]
  | escaped c text escape written escaped later ih =>
      rw [octets_of_escapes escaped, ih, encodeUtf8, encodeUtf8, List.flatMap_cons]

theorem decode_encoding {text : String} {written : List Char} (encodes : Encodes text.toList written) :
    percentDecode written = some text := by
  rw [percentDecode, octets_of_encoding encodes, decode_encoded]
  simp only [String.ofList_toList]

theorem encode_char_filled (c : Char) : encodeChar c ≠ [] := by
  obtain ⟨first, tail, _, _, _, octets, _, _⟩ := char_leads c []
  rw [List.append_nil] at octets
  rw [octets]
  exact List.cons_ne_nil first tail

theorem octets_filled (c : Char) (rest : List Char) : percentOctets (c :: rest) ≠ [] := by
  rw [percentOctets.eq_def]
  split
  · split <;> simp [encode_char_filled]
  · simp [encode_char_filled]
  · rename_i same
    cases same

theorem decode_filled (first : Nat) (tail : List Nat) : decodeUtf8 (first :: tail) ≠ .ok [] := by
  rw [decodeUtf8, List.length_cons, decodeFrom]
  split
  · exact nofun
  · split
    · rename_i rest _
      generalize decodeFrom tail.length _ rest = later
      cases later <;> exact nofun
    · exact nofun
    · exact nofun

theorem decoded_empty {written : List Char} (decoded : percentDecode written = some "") : written = [] := by
  cases written with
  | nil => rfl
  | cons c rest =>
      rw [percentDecode] at decoded
      cases octets : percentOctets (c :: rest) with
      | nil => exact absurd octets (octets_filled c rest)
      | cons first tail =>
          rw [octets] at decoded
          cases read : decodeUtf8 (first :: tail) with
          | error fault =>
              rw [read] at decoded
              cases decoded
          | ok text =>
              have empty : text = [] := by simpa [read] using decoded
              rw [empty] at read
              exact absurd read (decode_filled first tail)

theorem hex_plain {c : Char} {n : Nat} (digit : hexValue? c = some n) : isPlain c = true := by
  refine plain_iff.mpr ⟨?_, ?_, ?_, ?_⟩
  all_goals
    rintro rfl
    cases digit

theorem escapes_within {octets : List Nat} {escape : List Char} (escapes : Escapes octets escape) :
    ∀ c ∈ escape, c ≠ '/' ∧ c ≠ '?' ∧ c ≠ '#' := by
  induction escapes with
  | nil => exact nofun
  | octet n h l octets written high low later ih =>
      intro c member
      simp only [List.mem_cons] at member
      obtain rfl | rfl | rfl | member := member
      · decide
      · exact (plain_iff.mp (hex_plain high)).2
      · exact (plain_iff.mp (hex_plain low)).2
      · exact ih c member

theorem encoding_within {text written : List Char} (encodes : Encodes text written) :
    ∀ c ∈ written, c ≠ '/' ∧ c ≠ '?' ∧ c ≠ '#' := by
  induction encodes with
  | nil => exact nofun
  | plain c text written plain later ih => exact List.forall_mem_cons.mpr ⟨(plain_iff.mp plain).2, ih⟩
  | escaped c text escape written escaped later ih => exact List.forall_mem_append.mpr ⟨escapes_within escaped, ih⟩

theorem encodes_itself {text : List Char} (plain : text.all isPlain = true) : Encodes text text := by
  induction text with
  | nil => exact .nil
  | cons c rest ih =>
      rw [List.all_cons, Bool.and_eq_true] at plain
      exact .plain c rest rest plain.1 (ih plain.2)

end SearchStore.Text

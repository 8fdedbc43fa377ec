import SearchStore.Json.Printer
import SearchStore.Proofs.Json.Numerals

/-!
The tokens that the texts of a value spell. Both texts, the compact one and the one with an element on
each line, spell the same, for blanks between tokens do not count.
-/

set_option autoImplicit false

namespace SearchStore.Json

/-! The numbers in a value -/

mutual
def numbers : Json → List Number
  | .number n => [n]
  | .array items => numbersOfItems items
  | .object members => numbersOfMembers members
  | _ => []

def numbersOfItems : List Json → List Number
  | [] => []
  | v :: rest => numbers v ++ numbersOfItems rest

def numbersOfMembers : List (String × Json) → List Number
  | [] => []
  | (_, v) :: rest => numbers v ++ numbersOfMembers rest
end

theorem among_items {holds : Number → Prop} {v : Json} {rest : List Json}
    (all : ∀ n ∈ numbersOfItems (v :: rest), holds n) :
    (∀ n ∈ v.numbers, holds n) ∧ ∀ n ∈ numbersOfItems rest, holds n := List.forall_mem_append.mp all

theorem among_members {holds : Number → Prop} {k : String} {v : Json} {rest : List (String × Json)}
    (all : ∀ n ∈ numbersOfMembers ((k, v) :: rest), holds n) :
    (∀ n ∈ v.numbers, holds n) ∧ ∀ n ∈ numbersOfMembers rest, holds n := List.forall_mem_append.mp all

def Legible (v : Json) : Prop := ∀ n ∈ v.numbers, n.reread.isSome = true

instance (v : Json) : Decidable v.Legible := inferInstanceAs (Decidable (∀ n ∈ v.numbers, n.reread.isSome = true))

/-! Tokens of texts -/

def Lexed (s : List Char) (ts : List Token) : Prop := ∀ bound, s.length ≤ bound → tokensUpTo bound s = some ts

variable {s t rest after : List Char} {ts us : List Token} {c : Char}

theorem lexed_nothing : Lexed [] [] := by
  intro bound _
  cases bound <;> rfl

theorem lexed_blank (blank : isSeparator c = true) (lexed : Lexed s ts) : Lexed (c :: s) ts := by
  intro bound enough
  cases bound with
  | zero => simp at enough
  | succ bound =>
      have skipped := lexed (bound + 1) (Nat.le_of_succ_le enough)
      rw [tokensUpTo] at skipped ⊢
      rwa [List.dropWhile_cons_of_pos blank]

theorem lexed_token {token : Token} (filled : isSeparator c = false) (next : nextToken (c :: s) = some (token, after))
    (shorter : after.length ≤ s.length) (lexed : Lexed after ts) : Lexed (c :: s) (token :: ts) := by
  intro bound enough
  cases bound with
  | zero => simp at enough
  | succ bound =>
      have later := lexed bound (Nat.le_trans shorter (Nat.le_of_succ_le_succ enough))
      rw [tokensUpTo, List.dropWhile_cons_of_neg (by simp [filled])]
      simp only [next, later, Option.bind_eq_bind, Option.bind_some]

-- A text that is cut into these tokens whatever stands behind it, unless that goes on with a number.
def Spells (s : List Char) (ts : List Token) : Prop :=
  ∀ rest later, Apart rest → Lexed rest later → Lexed (s ++ rest) (ts ++ later)

theorem tokens_of_spelling (spells : Spells s ts) : tokens s = some ts := by
  have lexed := spells [] [] (by simp [Apart]) lexed_nothing
  rw [List.append_nil, List.append_nil] at lexed
  exact lexed s.length (Nat.le_refl _)

theorem spells_nothing : Spells [] [] := fun _ _ _ lexed => lexed

theorem spells_both (first : Spells s ts) (second : Spells t us) (apart : ∀ rest, Apart (t ++ rest)) :
    Spells (s ++ t) (ts ++ us) := by
  intro rest later behind lexed
  rw [List.append_assoc, List.append_assoc]
  exact first _ _ (apart rest) (second rest later behind lexed)

theorem spells_blank (blank : isSeparator c = true) (spells : Spells s ts) : Spells (c :: s) ts :=
  fun rest later behind lexed => lexed_blank blank (spells rest later behind lexed)

theorem spells_mark {token : Token} (filled : isSeparator c = false)
    (mark : ∀ rest, nextToken (c :: rest) = some (token, rest)) (spells : Spells s ts) :
    Spells (c :: s) (token :: ts) := by
  intro rest later behind lexed
  exact lexed_token filled (mark _) (Nat.le_refl _) (spells rest later behind lexed)

theorem spells_blanks (n : Nat) (spells : Spells s ts) : Spells (List.replicate n ' ' ++ s) ts := by
  induction n with
  | zero => exact spells
  | succ n ih => exact spells_blank rfl ih

theorem spells_line (level : Nat) (spells : Spells s ts) : Spells (newLine level ++ s) ts :=
  spells_blank rfl (spells_blanks (2 * level) spells)

theorem spells_null : Spells "null".toList [.null] := by
  intro rest later _ lexed
  exact lexed_token rfl rfl (by simp; omega) lexed

theorem spells_bool (b : Bool) : Spells (printBool b) [.bool b] := by
  intro rest later _ lexed
  cases b with
  | true => exact lexed_token rfl rfl (by simp; omega) lexed
  | false => exact lexed_token rfl rfl (by simp; omega) lexed

/-! Strings -/

theorem hex_unit_of_control : ∀ n < 0x20, hexUnit '0' '0' (Text.hexDigit (n / 16)) (Text.hexDigit (n % 16)) = some n := by
  decide

theorem scanned_plain (filled : c ≠ '"') (bare : c ≠ '\\') (visible : ¬ c.toNat < 0x20) (s : List Char) :
    scanString (c :: s) = (scanString s).map fun p => (.char c :: p.1, p.2) := by
  rw [scanString]
  · rw [if_neg (not_or.mpr ⟨visible, bare⟩)]
    cases scanString s <;> rfl
  · exact filled
  · rintro _ _ _ _ _ rfl
    exact absurd rfl bare
  · rintro _ _ rfl
    exact absurd rfl bare

theorem scanned_escape {e : Char} (unescaped : unescape e = some c) (s : List Char) :
    scanString ('\\' :: e :: s) = (scanString s).map fun p => (.char c :: p.1, p.2) := by
  have short : e ≠ 'u' := by
    rintro rfl
    cases unescaped
  rw [scanString]
  · rw [unescaped]
    cases scanString s <;> rfl
  · rintro _ _ _ _ _ rfl
    exact absurd rfl short

theorem scanned_unit {n : Nat} {a b d e : Char} (unit : hexUnit a b d e = some n) (s : List Char) :
    scanString ('\\' :: 'u' :: a :: b :: d :: e :: s) = (scanString s).map fun p => (.unit n :: p.1, p.2) := by
  rw [scanString, unit]
  cases scanString s <;> rfl

inductive Quoted : List Char → List Char → Prop where
  | nothing : Quoted [] []
  | plain {c : Char} {s t : List Char} (filled : c ≠ '"') (bare : c ≠ '\\') (visible : ¬ c.toNat < 0x20)
      (later : Quoted s t) : Quoted (c :: s) (c :: t)
  | short {c e : Char} {s t : List Char} (stands : unescape e = some c) (later : Quoted s t) :
      Quoted (c :: s) ('\\' :: e :: t)
  | unit {c a b d e : Char} {s t : List Char} (stands : hexUnit a b d e = some c.toNat) (later : Quoted s t) :
      Quoted (c :: s) ('\\' :: 'u' :: a :: b :: d :: e :: t)
  | pair {c a b d e a' b' d' e' : Char} {s t : List Char} (wide : 0x10000 ≤ c.toNat)
      (high : hexUnit a b d e = some (0xD800 + (c.toNat - 0x10000) / 0x400))
      (low : hexUnit a' b' d' e' = some (0xDC00 + (c.toNat - 0x10000) % 0x400)) (later : Quoted s t) :
      Quoted (c :: s) ('\\' :: 'u' :: a :: b :: d :: e :: '\\' :: 'u' :: a' :: b' :: d' :: e' :: t)

theorem character_of_unit (c : Char) (later : List Piece) :
    characters (.unit c.toNat :: later) = (characters later).map (c :: ·) := by
  have valid : c.toNat < 0xD800 ∨ 0xDFFF < c.toNat := c.valid.imp_right And.left
  have high : isHighSurrogate c.toNat = false := by
    simp only [isHighSurrogate, Bool.and_eq_false_iff, decide_eq_false_iff_not]
    omega
  have low : isLowSurrogate c.toNat = false := by
    simp only [isLowSurrogate, Bool.and_eq_false_iff, decide_eq_false_iff_not]
    omega
  rw [characters.eq_def]
  simp only [high, low, Bool.false_eq_true, ↓reduceIte, Char.ofNat_toNat]

theorem character_of_pair (c : Char) (wide : 0x10000 ≤ c.toNat) (later : List Piece) :
    characters (.unit (0xD800 + (c.toNat - 0x10000) / 0x400) :: .unit (0xDC00 + (c.toNat - 0x10000) % 0x400) :: later) =
      (characters later).map (c :: ·) := by
  have bound : c.toNat < 0x110000 := c.valid.elim (fun low => Nat.lt_trans low (by decide)) And.right
  have high : isHighSurrogate (0xD800 + (c.toNat - 0x10000) / 0x400) = true := by
    simp only [isHighSurrogate, Bool.and_eq_true, decide_eq_true_eq]
    omega
  have low : isLowSurrogate (0xDC00 + (c.toNat - 0x10000) % 0x400) = true := by
    simp only [isLowSurrogate, Bool.and_eq_true, decide_eq_true_eq]
    omega
  have code : 0x10000 + (0xD800 + (c.toNat - 0x10000) / 0x400 - 0xD800) * 0x400 +
      (0xDC00 + (c.toNat - 0x10000) % 0x400 - 0xDC00) = c.toNat := by omega
  rw [characters.eq_def]
  simp only [high, low, ↓reduceIte, code, Char.ofNat_toNat]

theorem quoted_scanned {s t : List Char} (quoted : Quoted s t) (rest : List Char) : ∃ pieces,
    scanString (t ++ '"' :: rest) = some (pieces, rest) ∧ characters pieces = some s := by
  induction quoted with
  | nothing => exact ⟨[], rfl, rfl⟩
  | @plain c _ _ filled bare visible _ ih =>
      obtain ⟨pieces, scanned, read⟩ := ih
      refine ⟨.char c :: pieces, ?_, ?_⟩
      · rw [List.cons_append, scanned_plain filled bare visible, scanned]
        rfl
      · rw [characters, read]
        rfl
  | @short c _ _ _ stands _ ih =>
      obtain ⟨pieces, scanned, read⟩ := ih
      refine ⟨.char c :: pieces, ?_, ?_⟩
      · rw [List.cons_append, List.cons_append, scanned_escape stands, scanned]
        rfl
      · rw [characters, read]
        rfl
  | @unit c _ _ _ _ _ _ stands _ ih =>
      obtain ⟨pieces, scanned, read⟩ := ih
      refine ⟨_, ?_, (character_of_unit c pieces).trans (congrArg (Option.map _) read)⟩
      simp only [List.cons_append, scanned_unit stands, scanned, Option.map_some]
  | @pair c _ _ _ _ _ _ _ _ _ _ wide high low _ ih =>
      obtain ⟨pieces, scanned, read⟩ := ih
      refine ⟨_, ?_, (character_of_pair c wide pieces).trans (congrArg (Option.map _) read)⟩
      simp only [List.cons_append, scanned_unit high, scanned_unit low, scanned, Option.map_some]

theorem printed_quoted {s t : List Char} (c : Char) (later : Quoted s t) : Quoted (c :: s) (printChar c ++ t) := by
  by_cases quote : c = '"'
  · subst quote
    exact .short rfl later
  by_cases slash : c = '\\'
  · subst slash
    exact .short rfl later
  by_cases line : c = '\n'
  · subst line
    exact .short rfl later
  by_cases carriage : c = '\r'
  · subst carriage
    exact .short rfl later
  by_cases tab : c = '\t'
  · subst tab
    exact .short rfl later
  by_cases back : c.toNat = 0x08
  · have same : c = Char.ofNat 0x08 := by rw [← back, Char.ofNat_toNat]
    subst same
    exact .short rfl later
  by_cases form : c.toNat = 0x0C
  · have same : c = Char.ofNat 0x0C := by rw [← form, Char.ofNat_toNat]
    subst same
    exact .short rfl later
  by_cases control : c.toNat < 0x20
  · have printed : printChar c = ['\\', 'u', '0', '0', Text.hexDigit (c.toNat / 16), Text.hexDigit (c.toNat % 16)] := by
      simp only [printChar, quote, slash, line, carriage, tab, back, form, control, ↓reduceIte]
    rw [printed]
    exact .unit (hex_unit_of_control c.toNat control) later
  · have printed : printChar c = [c] := by
      simp only [printChar, quote, slash, line, carriage, tab, back, form, control, ↓reduceIte]
    rw [printed]
    exact .plain quote slash control later

theorem string_quoted (s : List Char) : Quoted s (s.flatMap printChar) := by
  induction s with
  | nil => exact .nothing
  | cons c later ih => exact printed_quoted c ih

theorem next_of_string {text : String} {t : List Char} (quoted : Quoted text.toList t) (rest : List Char) :
    nextToken ('"' :: (t ++ '"' :: rest)) = some (.string (some text), rest) := by
  obtain ⟨pieces, scanned, read⟩ := quoted_scanned quoted rest
  simp only [nextToken, scanned, read, Option.bind_eq_bind, Option.bind_some, Option.map_some, String.ofList_toList]

theorem spells_string (text : String) : Spells (printString text) [.string (some text)] := by
  intro rest later _ lexed
  rw [printString, List.cons_append, List.cons_append, List.append_assoc]
  exact lexed_token rfl (next_of_string (string_quoted text.toList) rest) (by simp; omega) lexed

/-! Numbers -/

theorem next_of_numeral (starts : isDigit c = true ∨ c = '-') (s : List Char) :
    nextToken (c :: s) = (scanNumeral (c :: s)).map fun p => (.number p.1.value?, p.2) := by
  rw [nextToken]
  · cases scanNumeral (c :: s) <;> rfl
  · exact List.cons_ne_nil c s
  -- none of the other marks that a token starts with starts a numeral
  all_goals
    intro _ alike
    obtain rfl := (List.cons.inj alike).1
    revert starts
    decide

theorem numeral_starts {x : Numeral} (scanned : scanNumeral (c :: s) = some (x, after)) : isDigit c = true ∨ c = '-' := by
  by_cases minus : c = '-'
  · exact Or.inr minus
  · rw [scanned_positive fun d first => by cases first; exact minus] at scanned
    obtain ⟨⟨whole, _⟩, first, _⟩ := Option.bind_eq_some_iff.mp scanned
    by_cases zero : c = '0'
    · rw [zero]
      exact Or.inl rfl
    · rw [scanWhole] at first
      · by_cases digit : isDigit c = true
        · exact Or.inl digit
        · rw [if_neg digit] at first
          cases first
      · exact zero

theorem next_of_number {n m : Number} (read : n.reread = some m) (behind : Apart rest) : ∃ c digits,
    n.print = c :: digits ∧ (isDigit c = true ∨ c = '-') ∧
      nextToken (c :: (digits ++ rest)) = some (.number (some m), rest) := by
  obtain ⟨x, scanned, value⟩ := Number.scanned_of_reread read
  cases printed : n.print with
  | nil =>
      rw [printed] at scanned
      cases scanned
  | cons c digits =>
      rw [printed] at scanned
      have starts := numeral_starts scanned
      refine ⟨c, digits, rfl, starts, ?_⟩
      rw [next_of_numeral starts, ← List.cons_append, numeral_before behind scanned, List.nil_append, ← value]
      rfl

theorem numeral_filled (starts : isDigit c = true ∨ c = '-') : isSeparator c = false := by
  rcases starts with digit | rfl
  · by_contra blank
    simp only [isSeparator, Bool.not_eq_false, Bool.or_eq_true, beq_iff_eq] at blank
    rcases blank with ((rfl | rfl) | rfl) | rfl <;> cases digit
  · rfl

theorem spells_number {n m : Number} (read : n.reread = some m) : Spells n.print [.number (some m)] := by
  intro rest later behind lexed
  obtain ⟨c, digits, printed, starts, next⟩ := next_of_number read behind
  rw [printed]
  exact lexed_token (numeral_filled starts) next (by simp) lexed

/-! Values -/

mutual
def tokensOf : Json → List Token
  | .null => [.null]
  | .bool b => [.bool b]
  | .number n => [.number n.reread]
  | .string s => [.string (some s)]
  | .array items => .openArray :: tokensOfItems items ++ [.closeArray]
  | .object members => .openObject :: tokensOfMembers members ++ [.closeObject]

def tokensOfItems : List Json → List Token
  | [] => []
  | [v] => tokensOf v
  | v :: rest => tokensOf v ++ .comma :: tokensOfItems rest

def tokensOfMembers : List (String × Json) → List Token
  | [] => []
  | [(k, v)] => .string (some k) :: .colon :: tokensOf v
  | (k, v) :: rest => .string (some k) :: .colon :: tokensOf v ++ .comma :: tokensOfMembers rest
end

theorem apart_mark (plain : isDigit c = false ∧ c ≠ '.' ∧ c ≠ 'e' ∧ c ≠ 'E') (s : List Char) : Apart (c :: s) := by
  intro d first
  cases first
  exact plain

theorem spells_between {first last : Char} {opening closing : Token} (filled : isSeparator first = false)
    (opens : ∀ rest, nextToken (first :: rest) = some (opening, rest)) (ends : isSeparator last = false)
    (closes : ∀ rest, nextToken (last :: rest) = some (closing, rest))
    (plain : isDigit last = false ∧ last ≠ '.' ∧ last ≠ 'e' ∧ last ≠ 'E') (inside : Spells s ts) :
    Spells (first :: s ++ [last]) (opening :: ts ++ [closing]) :=
  spells_mark filled opens
    (spells_both inside (spells_mark ends closes spells_nothing) fun _ => apart_mark plain _)

theorem spells_comma (first : Spells s ts) (second : Spells t us) : Spells (s ++ ',' :: t) (ts ++ .comma :: us) :=
  spells_both first (spells_mark rfl (fun _ => rfl) second) fun _ => apart_mark (by decide) _

theorem spells_member (key : String) (value : Spells s ts) :
    Spells (printString key ++ ':' :: s) (.string (some key) :: .colon :: ts) :=
  spells_both (spells_string key) (spells_mark rfl (fun _ => rfl) value) fun _ => apart_mark (by decide) _

theorem spells_line_member (level : Nat) (key : String) (value : Spells s ts) :
    Spells (newLine level ++ printString key ++ ':' :: ' ' :: s) (.string (some key) :: .colon :: ts) := by
  have line := spells_line level (spells_member key (spells_blank (c := ' ') rfl value))
  rwa [← List.append_assoc] at line

theorem spells_lines {level : Nat} {first last : Char} {opening closing : Token} (filled : isSeparator first = false)
    (opens : ∀ rest, nextToken (first :: rest) = some (opening, rest)) (ends : isSeparator last = false)
    (closes : ∀ rest, nextToken (last :: rest) = some (closing, rest)) (inside : Spells s ts) :
    Spells (first :: s ++ newLine level ++ [last]) (opening :: ts ++ [closing]) := by
  have closed := spells_line level (spells_mark ends closes spells_nothing)
  have both := spells_mark filled opens (spells_both inside closed fun _ => apart_mark (by decide) _)
  rwa [← List.append_assoc] at both

mutual
theorem value_spelled : ∀ v : Json, Legible v → Spells (print v) (tokensOf v)
  | .null, _ => spells_null
  | .bool b, _ => spells_bool b
  | .number n, legible => by
      obtain ⟨m, read⟩ := Option.isSome_iff_exists.mp (legible n (List.mem_singleton_self n))
      rw [tokensOf, read]
      exact spells_number read
  | .string s, _ => spells_string s
  | .array items, legible =>
      spells_between rfl (fun _ => rfl) rfl (fun _ => rfl) (by decide) (items_spelled items legible)
  | .object members, legible =>
      spells_between rfl (fun _ => rfl) rfl (fun _ => rfl) (by decide) (members_spelled members legible)

theorem items_spelled : ∀ items : List Json, (∀ n ∈ numbersOfItems items, n.reread.isSome = true) →
    Spells (printItems items) (tokensOfItems items)
  | [], _ => spells_nothing
  | [v], legible => value_spelled v (among_items legible).1
  | v :: w :: rest, legible =>
      spells_comma (value_spelled v (among_items legible).1) (items_spelled (w :: rest) (among_items legible).2)

theorem members_spelled : ∀ members : List (String × Json), (∀ n ∈ numbersOfMembers members, n.reread.isSome = true) →
    Spells (printMembers members) (tokensOfMembers members)
  | [], _ => spells_nothing
  | [(k, v)], legible => spells_member k (value_spelled v (among_members legible).1)
  | (k, v) :: e :: rest, legible =>
      spells_comma (spells_member k (value_spelled v (among_members legible).1))
        (members_spelled (e :: rest) (among_members legible).2)
end

mutual
theorem pretty_spelled (level : Nat) : ∀ v : Json, Legible v → Spells (printPretty level v) (tokensOf v)
  | .null, _ => spells_null
  | .bool b, _ => spells_bool b
  | .number n, legible => value_spelled (.number n) legible
  | .string s, _ => spells_string s
  | .array [], _ => spells_between rfl (fun _ => rfl) rfl (fun _ => rfl) (by decide) spells_nothing
  | .array (v :: rest), legible =>
      spells_lines rfl (fun _ => rfl) rfl (fun _ => rfl) (pretty_items_spelled (level + 1) (v :: rest) legible)
  | .object [], _ => spells_between rfl (fun _ => rfl) rfl (fun _ => rfl) (by decide) spells_nothing
  | .object (e :: rest), legible =>
      spells_lines rfl (fun _ => rfl) rfl (fun _ => rfl) (pretty_members_spelled (level + 1) (e :: rest) legible)

theorem pretty_items_spelled (level : Nat) : ∀ items : List Json,
    (∀ n ∈ numbersOfItems items, n.reread.isSome = true) → Spells (printPrettyItems level items) (tokensOfItems items)
  | [], _ => spells_nothing
  | [v], legible => spells_line level (pretty_spelled level v (among_items legible).1)
  | v :: w :: rest, legible =>
      spells_comma (spells_line level (pretty_spelled level v (among_items legible).1))
        (pretty_items_spelled level (w :: rest) (among_items legible).2)

theorem pretty_members_spelled (level : Nat) : ∀ members : List (String × Json),
    (∀ n ∈ numbersOfMembers members, n.reread.isSome = true) →
      Spells (printPrettyMembers level members) (tokensOfMembers members)
  | [], _ => spells_nothing
  | [(k, v)], legible => spells_line_member level k (pretty_spelled level v (among_members legible).1)
  | (k, v) :: e :: rest, legible =>
      spells_comma (spells_line_member level k (pretty_spelled level v (among_members legible).1))
        (pretty_members_spelled level (e :: rest) (among_members legible).2)
end

end SearchStore.Json

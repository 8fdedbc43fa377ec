import SearchStore.Proofs.Json.Rereading
import SearchStore.Text.Blank

/-!
The texts of a value: its tokens in their order, blanks between them as one likes, and the characters of its
strings as they are or escaped. Every such text is read as the value; the printed text is one of them.
-/

set_option autoImplicit false

namespace SearchStore.Json

inductive Written : Token → List Char → Prop where
  | null : Written .null "null".toList
  | bool (b : Bool) : Written (.bool b) (printBool b)
  | integer (i : Int) (fits : leastInteger ≤ i ∧ i ≤ greatestInteger) :
      Written (.number (some (.integer i fits))) (Number.printInt i)
  | string {text : String} {t : List Char} (quoted : Quoted text.toList t) :
      Written (.string (some text)) ('"' :: t ++ ['"'])
  | openArray : Written .openArray ['[']
  | closeArray : Written .closeArray [']']
  | openObject : Written .openObject ['\x7b']
  | closeObject : Written .closeObject ['\x7d']
  | comma : Written .comma [',']
  | colon : Written .colon [':']

def isNumber : Token → Bool
  | .number _ => true
  | _ => false

-- Tokens one after the other. Only a number could run into what stands behind it.
inductive Laid : List Token → List Char → Prop where
  | last {t : Token} {s : List Char} (written : Written t s) : Laid [t] s
  | more {t : Token} {ts : List Token} {s r : List Char} (written : Written t s) (gap : List Char)
      (blank : gap.all isSeparator = true) (later : Laid ts r) (apart : isNumber t = true → Apart (gap ++ r)) :
      Laid (t :: ts) (s ++ (gap ++ r))

variable {t : Token} {ts us : List Token} {s r rest gap : List Char} {v : Json} {c : Char}

/-! Cutting a text -/

theorem next_of_written (written : Written t s) (behind : isNumber t = true → Apart rest) : ∃ c s', s = c :: s' ∧
    isSeparator c = false ∧ nextToken (c :: (s' ++ rest)) = some (t, rest) := by
  cases written with
  | null => exact ⟨'n', _, rfl, rfl, rfl⟩
  | bool b =>
      cases b with
      | true => exact ⟨'t', _, rfl, rfl, rfl⟩
      | false => exact ⟨'f', _, rfl, rfl, rfl⟩
  | integer i fits =>
      obtain ⟨c, digits, printed, starts, next⟩ := next_of_number (Number.reread_integer i fits) (behind rfl)
      exact ⟨c, digits, printed, numeral_filled starts, next⟩
  | string quoted =>
      refine ⟨'"', _, rfl, rfl, ?_⟩
      rw [List.append_eq, List.append_assoc]
      exact next_of_string quoted rest
  | openArray => exact ⟨'[', [], rfl, rfl, rfl⟩
  | closeArray => exact ⟨']', [], rfl, rfl, rfl⟩
  | openObject => exact ⟨'\x7b', [], rfl, rfl, rfl⟩
  | closeObject => exact ⟨'\x7d', [], rfl, rfl, rfl⟩
  | comma => exact ⟨',', [], rfl, rfl, rfl⟩
  | colon => exact ⟨':', [], rfl, rfl, rfl⟩

theorem lexed_gap (blank : gap.all isSeparator = true) (lexed : Lexed r ts) : Lexed (gap ++ r) ts := by
  induction gap with
  | nil => exact lexed
  | cons c later ih =>
      rw [List.all_cons, Bool.and_eq_true] at blank
      exact lexed_blank blank.1 (ih blank.2)

theorem lexed_written (written : Written t s) (behind : isNumber t = true → Apart rest) (lexed : Lexed rest ts) :
    Lexed (s ++ rest) (t :: ts) := by
  obtain ⟨c, s', rfl, filled, next⟩ := next_of_written written behind
  exact lexed_token filled next (by simp) lexed

theorem laid_lexed (laid : Laid ts s) : Lexed s ts := by
  induction laid with
  | last written =>
      have behind : Apart [] := by simp [Apart]
      have alone := lexed_written written (fun _ => behind) lexed_nothing
      rwa [List.append_nil] at alone
  | more written _ blank _ apart ih => exact lexed_written written apart (lexed_gap blank ih)

theorem laid_tokens (laid : Laid ts s) : tokens s = some ts := laid_lexed laid s.length (Nat.le_refl _)

/-! Reading a text -/

theorem layout_drafted (integral : v.Integral) (laid : Laid (tokensOf v) s) :
    Draft.ofChars? s = some (Draft.within id 0 v) :=
  tokens_drafted (laid_tokens laid) fun n member => integer_read (integral n member)

theorem layout_read (integral : v.Integral) (shallow : v.nesting ≤ depthLimit) (laid : Laid (tokensOf v) s) :
    Draft.ofChars? s = some (.ofValue v) := by
  rw [layout_drafted integral laid, Draft.within_shallow (by omega), same_numbers (f := id) fun n _ => rfl]

/-! The ends of a text -/

theorem digit_filled (digit : isDigit c = true) : Text.isBlank c = false := by
  simp only [isDigit, Bool.and_eq_true, decide_eq_true_eq] at digit
  have low : 48 ≤ c.toNat := digit.1
  have high : c.toNat ≤ 57 := digit.2
  simp only [Text.isBlank, Text.inRanges, Text.blankRanges, List.any_cons, List.any_nil, Bool.or_false,
    Bool.or_eq_false_iff, Bool.and_eq_false_iff, decide_eq_false_iff_not]
  omega

def Tight (s : List Char) : Prop :=
  s ≠ [] ∧ (∀ c ∈ s.head?, Text.isBlank c = false) ∧ ∀ c ∈ s.getLast?, Text.isBlank c = false

instance (s : List Char) : Decidable (Tight s) :=
  have filled (o : Option Char) : Decidable (∀ c ∈ o, Text.isBlank c = false) := o.decidableForallMem
  @instDecidableAnd _ _ inferInstance (@instDecidableAnd _ _ (filled _) (filled _))

theorem tight_both (first : Tight s) (gap : List Char) (second : Tight r) : Tight (s ++ (gap ++ r)) := by
  refine ⟨?_, ?_, ?_⟩
  · exact List.append_ne_nil_of_left_ne_nil first.1 _
  · intro c member
    rw [List.head?_append, List.head?_eq_some_head first.1, Option.some_or, ← List.head?_eq_some_head] at member
    exact first.2.1 c member
  · intro c member
    rw [List.getLast?_append, List.getLast?_append, List.getLast?_eq_some_getLast second.1, Option.some_or,
      Option.some_or, ← List.getLast?_eq_some_getLast] at member
    exact second.2.2 c member

theorem tight_digits {digits : List Char} (filled : digits ≠ []) (all : ∀ c ∈ digits, isDigit c = true) :
    Tight digits :=
  ⟨filled, fun c member => digit_filled (all c (List.mem_of_mem_head? member)),
    fun c member => digit_filled (all c (List.mem_of_getLast? member))⟩

theorem written_tight (written : Written t s) : Tight s := by
  cases written with
  | integer i fits =>
      have digits : Tight (Numeric.digitChars i.natAbs) := tight_digits (digits_filled _) fun _ => digits_written
      rw [Number.printInt]
      split
      · have sign : Tight ['-'] := by decide
        exact tight_both sign [] digits
      · exact digits
  | string quoted =>
      have quote : Tight ['"'] := by decide
      exact tight_both quote _ quote
  | bool b => cases b <;> decide
  | null | openArray | closeArray | openObject | closeObject | comma | colon => decide

theorem laid_tight (laid : Laid ts s) : Tight s := by
  induction laid with
  | last written => exact written_tight written
  | more written gap _ _ _ ih => exact tight_both (written_tight written) gap ih

/-! The printed text -/

theorem apart_before (apart : Apart s) (filled : s ≠ []) : Apart (s ++ r) := by
  rw [Apart, List.head?_append, List.head?_eq_some_head filled, Option.some_or, ← List.head?_eq_some_head filled]
  exact apart

theorem laid_both (first : Laid ts s) (second : Laid us r) (apart : Apart r) : Laid (ts ++ us) (s ++ r) := by
  induction first with
  | last written => exact .more written [] rfl second fun _ => apart
  | @more t ts s r' written gap blank later behind ih =>
      rw [List.append_assoc, List.append_assoc]
      refine .more written gap blank ih fun number => ?_
      rw [← List.append_assoc]
      exact apart_before (behind number) (List.append_ne_nil_of_right_ne_nil _ (laid_tight later).1)

theorem laid_behind (written : Written t s) (plain : isNumber t = false) (later : Laid ts r) : Laid (t :: ts) (s ++ r) :=
  .more written [] rfl later fun number => by
    rw [plain] at number
    cases number

theorem laid_between {first last : Char} {opening closing : Token} (opens : Written opening [first])
    (plain : isNumber opening = false) (closes : Written closing [last])
    (mark : isDigit last = false ∧ last ≠ '.' ∧ last ≠ 'e' ∧ last ≠ 'E') (inside : Laid ts s) :
    Laid (opening :: ts ++ [closing]) (first :: s ++ [last]) :=
  laid_behind (s := [first]) opens plain (laid_both inside (.last closes) (apart_mark mark []))

theorem laid_comma (first : Laid ts s) (second : Laid us r) : Laid (ts ++ .comma :: us) (s ++ ',' :: r) :=
  laid_both first (laid_behind .comma rfl second) (apart_mark (by decide) r)

theorem laid_member (key : String) (value : Laid ts s) :
    Laid (.string (some key) :: .colon :: ts) (printString key ++ ':' :: s) :=
  laid_behind (.string (string_quoted key.toList)) rfl (laid_behind .colon rfl value)

mutual
theorem value_laid : ∀ v : Json, v.Integral → Laid (tokensOf v) (print v)
  | .null, _ => .last .null
  | .bool b, _ => .last (.bool b)
  | .number (.integer i fits), _ => by
      rw [tokensOf, Number.reread_integer]
      exact .last (.integer i fits)
  | .number (.float b), integral => by cases integral (.float b) (List.mem_singleton_self _)
  | .string s, _ => .last (.string (string_quoted s.toList))
  | .array [], _ => laid_behind .openArray rfl (.last .closeArray)
  | .array (v :: rest), integral =>
      laid_between .openArray rfl .closeArray (by decide) (items_laid (v :: rest) (List.cons_ne_nil _ _) integral)
  | .object [], _ => laid_behind .openObject rfl (.last .closeObject)
  | .object (e :: rest), integral =>
      laid_between .openObject rfl .closeObject (by decide) (members_laid (e :: rest) (List.cons_ne_nil _ _) integral)

theorem items_laid : ∀ items : List Json, items ≠ [] → (∀ n ∈ numbersOfItems items, n.integer?.isSome = true) →
    Laid (tokensOfItems items) (printItems items)
  | [], filled, _ => absurd rfl filled
  | [v], _, integral => value_laid v (among_items integral).1
  | v :: w :: rest, _, integral =>
      laid_comma (value_laid v (among_items integral).1)
        (items_laid (w :: rest) (List.cons_ne_nil _ _) (among_items integral).2)

theorem members_laid : ∀ members : List (String × Json), members ≠ [] →
    (∀ n ∈ numbersOfMembers members, n.integer?.isSome = true) → Laid (tokensOfMembers members) (printMembers members)
  | [], filled, _ => absurd rfl filled
  | [(k, v)], _, integral => laid_member k (value_laid v (among_members integral).1)
  | (k, v) :: e :: rest, _, integral =>
      laid_comma (laid_member k (value_laid v (among_members integral).1))
        (members_laid (e :: rest) (List.cons_ne_nil _ _) (among_members integral).2)
end

/-! One line -/

theorem control_one_line : ∀ n < 0x20,
    '\n' ∉ ['\\', 'u', '0', '0', Text.hexDigit (n / 16), Text.hexDigit (n % 16)] := by decide

theorem character_one_line (c : Char) : '\n' ∉ printChar c := by
  rw [printChar]
  split_ifs with quote backslash line carriage tab backspace feed control
  · decide
  · decide
  · decide
  · decide
  · decide
  · decide
  · decide
  · exact control_one_line c.toNat control
  · simpa using Ne.symm line

theorem string_one_line (s : String) : '\n' ∉ printString s := by
  simpa [printString] using fun c _ => character_one_line c

theorem integer_one_line (i : Int) : '\n' ∉ Number.printInt i := by
  have digits : '\n' ∉ Numeric.digitChars i.natAbs := fun member => by cases digits_written member
  rw [Number.printInt]
  split
  · simpa using digits
  · exact digits

mutual
theorem value_one_line : ∀ v : Json, v.Integral → '\n' ∉ print v
  | .null, _ => by decide
  | .bool b, _ => by cases b <;> decide
  | .number (.integer i _), _ => integer_one_line i
  | .number (.float b), integral => by cases integral (.float b) (List.mem_singleton_self _)
  | .string s, _ => string_one_line s
  | .array items, integral => by simpa [print] using items_one_line items integral
  | .object members, integral => by simpa [print] using members_one_line members integral

theorem items_one_line : ∀ items : List Json, (∀ n ∈ numbersOfItems items, n.integer?.isSome = true) →
    '\n' ∉ printItems items
  | [], _ => List.not_mem_nil
  | [v], integral => value_one_line v (among_items integral).1
  | v :: w :: rest, integral => by
      simpa [printItems] using ⟨value_one_line v (among_items integral).1,
        items_one_line (w :: rest) (among_items integral).2⟩

theorem members_one_line : ∀ members : List (String × Json),
    (∀ n ∈ numbersOfMembers members, n.integer?.isSome = true) → '\n' ∉ printMembers members
  | [], _ => List.not_mem_nil
  | [(k, v)], integral => by
      simpa [printMembers] using ⟨string_one_line k, value_one_line v (among_members integral).1⟩
  | (k, v) :: e :: rest, integral => by
      simpa [printMembers] using ⟨string_one_line k, value_one_line v (among_members integral).1,
        members_one_line (e :: rest) (among_members integral).2⟩
end

end SearchStore.Json

import SearchStore.Proofs.Text.Lowering
import SearchStore.Proofs.Text.Words

/-!
Words are cut first and lowered then, so a text can be lowered in two ways: as a whole, and within its
words. The two differ only at a dotted capital I, which leaves a mark that ends words inside of one, and
at a capital sigma whose form in the text depends on characters beyond its word. Texts that are the same
when lowered have the same words exactly when such places are the same in both.
-/

set_option autoImplicit false

namespace SearchStore.Text

-- How a character is lowered in the text and in its word; none where it stands between words.
inductive Form where
  | plain (c : Char)
  | dotted
  -- A capital sigma that is final in the text and not in its word, or the other way round.
  | torn (final : Bool)

def sigma (final : Bool) : Char := if final then finalSigma else smallSigma

namespace Form

def inText : Form → List Char
  | plain c => [c]
  | dotted => ['i', dotAbove]
  | torn final => [sigma final]

def inWord : Form → Option (List Char)
  | plain c => if isAlphanumeric c then some [c] else none
  | dotted => some ['i', dotAbove]
  | torn final => some [sigma (!final)]

def astray : Form → Bool
  | plain _ => false
  | dotted => true
  | torn _ => true

end Form

def isFinal (passed rest : List Char) : Bool := meetsCased passed && !meetsCased rest

def letters (side : List Char) : List Char := side.takeWhile isAlphanumeric

def isAstray (passed : List Char) (c : Char) (rest : List Char) : Bool :=
  c == dottedCapital || c == capitalSigma && isFinal passed rest != isFinal (letters passed) (letters rest)

-- At which places a text is not lowered as its words are, with the characters before it given.
def astrayAfter (passed : List Char) : List Char → List Bool
  | [] => []
  | c :: rest => isAstray passed c rest :: astrayAfter (c :: passed) rest

def astray (s : List Char) : List Bool := astrayAfter [] s

def lowerAt (passed : List Char) (c : Char) (rest : List Char) : List Char :=
  if c = capitalSigma then [sigma (isFinal passed rest)] else lowerChar c

def formAt (passed : List Char) (c : Char) (rest : List Char) : Form :=
  if c = dottedCapital then .dotted
  else if c = capitalSigma then
    if isFinal passed rest = isFinal (letters passed) (letters rest) then .plain (sigma (isFinal passed rest))
    else .torn (isFinal passed rest)
  else .plain ((lowerChar c).headD c)

def formsAfter (passed : List Char) : List Char → List Form
  | [] => []
  | c :: rest => formAt passed c rest :: formsAfter (c :: passed) rest

theorem lower_after_cons (passed : List Char) (c : Char) (rest : List Char) :
    lowerAfter passed (c :: rest) = lowerAt passed c rest ++ lowerAfter (c :: passed) rest := by
  rw [lowerAfter, lowerAt, isFinal, sigma]
  by_cases capital : c = capitalSigma
  · rw [if_pos capital, if_pos capital]
    cases meetsCased passed && !meetsCased rest <;> rfl
  · rw [if_neg capital, if_neg capital]

theorem form_of_sigma (passed rest : List Char) : formAt passed capitalSigma rest =
    if isFinal passed rest = isFinal (letters passed) (letters rest) then .plain (sigma (isFinal passed rest))
    else .torn (isFinal passed rest) := by
  rw [formAt, if_neg (by decide), if_pos rfl]

theorem form_in_text (passed : List Char) (c : Char) (rest : List Char) :
    (formAt passed c rest).inText = lowerAt passed c rest := by
  rcases char_kinds c with rfl | rfl | ⟨undotted, small, d, lowered, -⟩
  · rfl
  · rw [form_of_sigma, lowerAt, if_pos rfl]
    split <;> rfl
  · rw [formAt, if_neg undotted, if_neg small, lowerAt, if_neg small, lowered]
    rfl

theorem sigma_letter (final : Bool) : isAlphanumeric (sigma final) = true := by
  cases final <;> decide

theorem form_in_word (passed : List Char) (c : Char) (rest : List Char) :
    (formAt passed c rest).inWord =
      if isAlphanumeric c then some (lowerAt (letters passed) c (letters rest)) else none := by
  rcases char_kinds c with rfl | rfl | ⟨undotted, small, d, lowered, letter⟩
  · rfl
  · have letter : isAlphanumeric capitalSigma = true := by decide
    rw [form_of_sigma, if_pos letter, lowerAt, if_pos rfl]
    by_cases same : isFinal passed rest = isFinal (letters passed) (letters rest)
    · rw [if_pos same, Form.inWord, if_pos (sigma_letter _), same]
    · rw [if_neg same, Form.inWord, Bool.not_eq_eq_eq_not.mpr (Bool.eq_not.mpr same)]
  · rw [formAt, if_neg undotted, if_neg small, lowerAt, if_neg small, lowered, List.headD_cons, Form.inWord, letter]

theorem form_astray (passed : List Char) (c : Char) (rest : List Char) :
    (formAt passed c rest).astray = isAstray passed c rest := by
  rcases char_kinds c with rfl | rfl | ⟨undotted, small, -⟩
  · rfl
  · rw [form_of_sigma, isAstray, beq_false_of_ne (by decide), beq_self_eq_true]
    by_cases same : isFinal passed rest = isFinal (letters passed) (letters rest)
    · simp [same, Form.astray]
    · simp [same, Form.astray]
  · rw [formAt, if_neg undotted, if_neg small, isAstray, beq_false_of_ne undotted, beq_false_of_ne small]
    rfl

theorem forms_in_text (passed s : List Char) : (formsAfter passed s).flatMap Form.inText = lowerAfter passed s := by
  induction s generalizing passed with
  | nil => rfl
  | cons c rest ih => rw [formsAfter, List.flatMap_cons, form_in_text, ih, lower_after_cons]

theorem forms_astray (passed s : List Char) : (formsAfter passed s).map Form.astray = astrayAfter passed s := by
  induction s generalizing passed with
  | nil => rfl
  | cons c rest ih => rw [formsAfter, List.map_cons, form_astray, ih, astrayAfter]

section Words

def joined (begun : List Char) : List (Option (List Char)) → List (List Char)
  | [] => if begun = [] then [] else [begun]
  | none :: rest => if begun = [] then joined [] rest else begun :: joined [] rest
  | some part :: rest => joined (begun ++ part) rest

theorem form_in_gap {c : Char} (outside : isAlphanumeric c = false) (passed rest : List Char) :
    (formAt passed c rest).inWord = none := by
  rw [form_in_word, if_neg (ne_true_of_eq_false outside)]

theorem lower_after_filled {passed s : List Char} (filled : s ≠ []) : lowerAfter passed s ≠ [] := by
  cases s with
  | nil => exact absurd rfl filled
  | cons c rest =>
      rw [← forms_in_text, formsAfter, List.flatMap_cons]
      cases formAt passed c rest <;> exact List.cons_ne_nil _ _

theorem joined_gap {passed gap rest : List Char} (outside : ∀ c ∈ gap, isAlphanumeric c = false) :
    joined [] ((formsAfter passed (gap ++ rest)).map Form.inWord) =
      joined [] ((formsAfter (gap.reverse ++ passed) rest).map Form.inWord) := by
  induction gap generalizing passed with
  | nil => rfl
  | cons c gap ih =>
      obtain ⟨first, later⟩ := List.forall_mem_cons.mp outside
      rw [List.cons_append, formsAfter, List.map_cons, form_in_gap first, joined, if_pos rfl, ih later,
        List.reverse_cons, List.append_assoc]
      rfl

theorem letters_word {word rest : List Char} (inside : ∀ c ∈ word, isAlphanumeric c = true)
    (ends : ∀ c ∈ rest.head?, isAlphanumeric c = false) : letters (word ++ rest) = word := by
  rw [letters, List.takeWhile_append_of_pos inside]
  cases rest with
  | nil => exact List.append_nil word
  | cons c rest => rw [List.takeWhile_cons_of_neg (ne_true_of_eq_false (ends c rfl)), List.append_nil]

theorem letters_gap {gap passed : List Char} (outside : ∀ c ∈ gap, isAlphanumeric c = false) (filled : gap ≠ []) :
    letters (gap.reverse ++ passed) = [] := by
  obtain ⟨c, rest, last⟩ := List.exists_cons_of_ne_nil (mt List.reverse_eq_nil_iff.mp filled)
  have here : c ∈ gap := List.mem_reverse.mp (last ▸ List.mem_cons_self ..)
  rw [letters, last, List.cons_append, List.takeWhile_cons_of_neg (ne_true_of_eq_false (outside c here))]

theorem joined_word {begun passed word rest : List Char} (inside : ∀ c ∈ word, isAlphanumeric c = true)
    (ends : ∀ c ∈ rest.head?, isAlphanumeric c = false) :
    joined begun ((formsAfter passed (word ++ rest)).map Form.inWord) =
      joined (begun ++ lowerAfter (letters passed) word) ((formsAfter (word.reverse ++ passed) rest).map Form.inWord) := by
  induction word generalizing begun passed with
  | nil => simp [lowerAfter]
  | cons c word ih =>
      obtain ⟨first, later⟩ := List.forall_mem_cons.mp inside
      have extended : letters (c :: passed) = c :: letters passed := List.takeWhile_cons_of_pos first
      rw [List.cons_append, formsAfter, List.map_cons, form_in_word, if_pos first, joined, ih later, letters_word later ends,
        extended, lower_after_cons, List.append_assoc, List.reverse_cons, List.append_assoc]
      rfl

theorem joined_ended {begun passed rest : List Char} (filled : begun ≠ []) (ends : ∀ c ∈ rest.head?, isAlphanumeric c = false) :
    joined begun ((formsAfter passed rest).map Form.inWord) = begun :: joined [] ((formsAfter passed rest).map Form.inWord) := by
  cases rest with
  | nil => simp [formsAfter, joined, filled]
  | cons c rest =>
      have outside : isAlphanumeric c = false := ends c rfl
      rw [formsAfter, List.map_cons, form_in_gap outside, joined, joined, if_neg filled, if_pos rfl]

theorem cut_joined {s : List Char} {ws : List (List Char)} (cut : Cut isAlphanumeric s ws) {passed : List Char}
    (begins : ∀ c ∈ s.head?, isAlphanumeric c = true → letters passed = []) :
    joined [] ((formsAfter passed s).map Form.inWord) = ws.map lowercase := by
  induction cut generalizing passed with
  | gap gap outside =>
      have read := @joined_gap passed gap [] outside
      rw [List.append_nil] at read
      exact read
  | word gap word rest later outside filled inside ends cut ih =>
      have fresh : letters (gap.reverse ++ passed) = [] := by
        rcases eq_or_ne gap [] with rfl | some
        · obtain ⟨c, tail, rfl⟩ := List.exists_cons_of_ne_nil filled
          exact begins c rfl (inside c (List.mem_cons_self ..))
        · exact letters_gap outside some
      rw [joined_gap outside, joined_word inside ends, fresh, List.nil_append,
        joined_ended (lower_after_filled filled) ends, ih, List.map_cons, lowercase]
      intro c first letter
      rw [ends c first] at letter
      cases letter

theorem forms_in_words (s : List Char) : joined [] ((formsAfter [] s).map Form.inWord) = words s :=
  cut_joined (cut_iff.mpr rfl) fun _ _ _ => rfl

end Words

section Lockstep

theorem joined_begun {begun : List Char} (filled : begun ≠ []) (parts : List (Option (List Char))) :
    ∃ more later, joined begun parts = (begun ++ more) :: later := by
  induction parts generalizing begun with
  | nil => exact ⟨[], [], by rw [joined, if_neg filled, List.append_nil]⟩
  | cons part rest ih =>
      cases part with
      | none => exact ⟨[], joined [] rest, by rw [joined, if_neg filled, List.append_nil]⟩
      | some part =>
          obtain ⟨more, later, read⟩ := ih (List.append_ne_nil_of_left_ne_nil filled part)
          exact ⟨part ++ more, later, by rw [joined, read, List.append_assoc]⟩

theorem sigma_injective {a b : Bool} (same : sigma a = sigma b) : a = b := by
  revert a b
  decide

theorem sigma_apart (final : Bool) : sigma final ≠ 'i' ∧ sigma final ≠ dotAbove := by
  cases final <;> decide

variable {f g : Form} {fs gs : List Form}

-- Two texts that are lowered to the same go on alike until one of them is astray where the other is not.
theorem forms_step (same : (f :: fs).flatMap Form.inText = (g :: gs).flatMap Form.inText) :
    (f = g ∧ fs.flatMap Form.inText = gs.flatMap Form.inText) ∨ f.astray ≠ g.astray := by
  rw [List.flatMap_cons, List.flatMap_cons] at same
  cases f with
  | plain c =>
      cases g with
      | plain d =>
          obtain ⟨rfl, later⟩ := List.cons.inj same
          exact .inl ⟨rfl, later⟩
      | dotted => exact .inr Bool.false_ne_true
      | torn b => exact .inr Bool.false_ne_true
  | dotted =>
      cases g with
      | plain d => exact .inr Bool.false_ne_true.symm
      | dotted => exact .inl ⟨rfl, List.append_cancel_left same⟩
      | torn b => exact absurd (List.cons.inj same).1.symm (sigma_apart b).1
  | torn a =>
      cases g with
      | plain d => exact .inr Bool.false_ne_true.symm
      | dotted => exact absurd (List.cons.inj same).1 (sigma_apart a).1
      | torn b =>
          obtain ⟨final, later⟩ := List.cons.inj same
          exact .inl ⟨congrArg Form.torn (sigma_injective final), later⟩

theorem mark_alone {later : List Char} (same : dotAbove :: later = gs.flatMap Form.inText) :
    ∃ rest, gs = .plain dotAbove :: rest := by
  cases gs with
  | nil => cases same
  | cons g rest =>
      rw [List.flatMap_cons] at same
      cases g with
      | plain d =>
          obtain ⟨rfl, -⟩ := List.cons.inj same
          exact ⟨rest, rfl⟩
      | dotted => exact absurd (List.cons.inj same).1 (by decide)
      | torn b => exact absurd (List.cons.inj same).1.symm (sigma_apart b).2

theorem joined_part {part : List Char} (begun : List Char) (letters : f.inWord = some part) :
    joined begun ((f :: fs).map Form.inWord) = joined (begun ++ part) (fs.map Form.inWord) := by
  rw [List.map_cons, letters, joined]

theorem joined_between (begun : List Char) (outside : f.inWord = none) :
    joined begun ((f :: fs).map Form.inWord) = joined begun [] ++ joined [] (fs.map Form.inWord) := by
  rw [List.map_cons, outside, joined, joined]
  split <;> rfl

-- Where only one of them is astray, the word there goes on in another way.
theorem stray_told_apart (same : (f :: fs).flatMap Form.inText = (g :: gs).flatMap Form.inText) (stray : f.astray = true)
    (settled : g.astray = false) (begun : List Char) :
    joined begun ((f :: fs).map Form.inWord) ≠ joined begun ((g :: gs).map Form.inWord) := by
  intro worded
  cases g with
  | dotted => cases settled
  | torn b => cases settled
  | plain c =>
      rw [List.flatMap_cons, List.flatMap_cons] at same
      cases f with
      | plain d => cases stray
      | dotted =>
          -- In one text the word goes on with the mark, in the other it ends before it.
          obtain ⟨rfl, later⟩ := List.cons.inj same
          obtain ⟨rest, rfl⟩ := mark_alone later
          have letter : (Form.plain 'i').inWord = some ['i'] := by decide
          have mark : (Form.plain dotAbove).inWord = none := by decide
          obtain ⟨more, others, left⟩ := @joined_begun (begun ++ ['i', dotAbove]) (by simp) (fs.map Form.inWord)
          rw [joined_part begun rfl, left, joined_part begun letter, joined_between _ mark, joined, if_neg (by simp)] at worded
          simpa using (List.cons.inj worded).1
      | torn final =>
          obtain ⟨rfl, later⟩ := List.cons.inj same
          have letter : (Form.plain (sigma final)).inWord = some [sigma final] := if_pos (sigma_letter final)
          obtain ⟨more, others, left⟩ := @joined_begun (begun ++ [sigma !final]) (by simp) (fs.map Form.inWord)
          obtain ⟨more', others', right⟩ := @joined_begun (begun ++ [sigma final]) (by simp) (gs.map Form.inWord)
          rw [joined_part begun rfl, left, joined_part begun letter, right, List.append_assoc, List.append_assoc] at worded
          have other := (List.cons.inj (List.append_cancel_left (List.cons.inj worded).1)).1
          exact absurd (sigma_injective other) (by simp)

theorem forms_eq_of_astray (same : fs.flatMap Form.inText = gs.flatMap Form.inText)
    (marked : fs.map Form.astray = gs.map Form.astray) : fs = gs := by
  induction fs generalizing gs with
  | nil => exact (List.map_eq_nil_iff.mp marked.symm).symm
  | cons f fs ih =>
      cases gs with
      | nil => cases marked
      | cons g gs =>
          obtain ⟨here, later⟩ := List.cons.inj marked
          obtain ⟨rfl, after⟩ := (forms_step same).resolve_right (not_not_intro here)
          rw [ih after later]

theorem forms_eq_of_words (same : fs.flatMap Form.inText = gs.flatMap Form.inText) {begun : List Char}
    (worded : joined begun (fs.map Form.inWord) = joined begun (gs.map Form.inWord)) : fs = gs := by
  induction fs generalizing gs begun with
  | nil =>
      cases gs with
      | nil => rfl
      | cons g gs =>
          rw [List.flatMap_cons] at same
          cases g <;> cases same
  | cons f fs ih =>
      cases gs with
      | nil =>
          rw [List.flatMap_cons] at same
          cases f <;> cases same
      | cons g gs =>
          rcases forms_step same with ⟨rfl, after⟩ | apart
          · cases part : f.inWord with
            | none =>
                rw [joined_between begun part, joined_between begun part] at worded
                rw [ih after (List.append_cancel_left worded)]
            | some letters =>
                rw [joined_part begun part, joined_part begun part] at worded
                rw [ih after worded]
          · exfalso
            cases stray : f.astray with
            | true =>
                rw [stray] at apart
                exact stray_told_apart same stray ((Bool.not_eq_true _).mp apart.symm) begun worded
            | false =>
                rw [stray] at apart
                exact stray_told_apart same.symm ((Bool.not_eq_false _).mp apart.symm) stray begun worded.symm

end Lockstep

theorem words_eq_iff {s t : List Char} (same : lowercase s = lowercase t) : words s = words t ↔ astray s = astray t := by
  have texts : (formsAfter [] s).flatMap Form.inText = (formsAfter [] t).flatMap Form.inText := by
    rw [forms_in_text, forms_in_text]
    exact same
  rw [← forms_in_words, ← forms_in_words, astray, astray, ← forms_astray, ← forms_astray]
  constructor
  · intro worded
    rw [forms_eq_of_words texts worded]
  · intro marked
    rw [forms_eq_of_astray texts marked]

theorem plain_settled {passed s : List Char} (plain : ∀ c ∈ s, c ≠ dottedCapital ∧ c ≠ capitalSigma) :
    astrayAfter passed s = List.replicate (lowerAfter passed s).length false := by
  induction s generalizing passed with
  | nil => rfl
  | cons c rest ih =>
      obtain ⟨⟨undotted, small⟩, later⟩ := List.forall_mem_cons.mp plain
      obtain ⟨d, lowered, -⟩ := lower_char_single undotted
      rw [astrayAfter, isAstray, beq_false_of_ne undotted, beq_false_of_ne small, ih later, lower_after_cons, lowerAt,
        if_neg small, lowered]
      rfl

theorem plain_astray {s t : List Char} (same : lowercase s = lowercase t)
    (plain : ∀ c ∈ s ++ t, c ≠ dottedCapital ∧ c ≠ capitalSigma) : astray s = astray t := by
  obtain ⟨left, right⟩ := List.forall_mem_append.mp plain
  rw [lowercase, lowercase] at same
  rw [astray, astray, plain_settled left, plain_settled right, same]

example : words "ΟΔΟΣ Α.Σ".toList = ["οδος".toList, "α".toList, "σ".toList] ∧
    astray "ΟΔΟΣ Α.Σ".toList = [false, false, false, false, false, false, false, true] := by decide +kernel

end SearchStore.Text

import Mathlib.Data.List.Infix
import SearchStore.Proofs.Predicate.Matching
import SearchStore.Proofs.Text.Casing

/-!
Text conditions and letter case. Two texts that are the same in lower case match the same, as queries and
within documents, exactly when the places are the same at which they are lowered otherwise in a word than
in the text.
-/

set_option autoImplicit false

namespace SearchStore

variable {s t : String} {v w : Json}

namespace Json

-- One of the strings in a value, at any depth, is replaced by another.
inductive Replaced (s t : String) : Json → Json → Prop where
  | here : Replaced s t (.string s) (.string t)
  | item (before after : List Json) {v w : Json} (inside : Replaced s t v w) :
      Replaced s t (.array (before ++ v :: after)) (.array (before ++ w :: after))
  | member (before after : List (String × Json)) (key : String) {v w : Json} (inside : Replaced s t v w) :
      Replaced s t (.object (before ++ (key, v) :: after)) (.object (before ++ (key, w) :: after))

theorem member_strings_append (before after : List (String × Json)) :
    memberStrings (before ++ after) = memberStrings before ++ memberStrings after := by
  induction before with
  | nil => rfl
  | cons e rest ih => rw [List.cons_append, memberStrings, ih, memberStrings, List.append_assoc]

theorem get_replaced (replaced : Replaced s t v w) (field : String) :
    v.get? field = w.get? field ∨ ∃ a b, v.get? field = some a ∧ w.get? field = some b ∧ Replaced s t a b := by
  cases replaced with
  | here => exact .inl rfl
  | item before after inside => exact .inl rfl
  | @member before after key v w inside =>
      simp only [get?]
      induction before with
      | nil =>
          by_cases found : key = field
          · exact .inr ⟨v, w, if_pos found, if_pos found, inside⟩
          · exact .inl ((if_neg found).trans (if_neg found).symm)
      | cons e rest ih =>
          obtain ⟨other, u⟩ := e
          by_cases found : other = field
          · exact .inl ((if_pos found).trans (if_pos found).symm)
          · simpa only [List.cons_append, Keyed.find?, if_neg found] using ih

end Json

namespace TextCondition

theorem words_of_replaced (worded : Text.words s.toList = Text.words t.toList) (replaced : Json.Replaced s t v w) :
    wordsOf v = wordsOf w := by
  induction replaced with
  | here => rw [words_of_string, words_of_string, worded]
  | item before after inside ih => rw [words_amid, words_amid, ih]
  | member before after key inside ih =>
      rw [wordsOf, wordsOf] at ih
      simp only [wordsOf, Json.strings, Json.member_strings_append, Json.memberStrings, List.flatMap_append, ih]

theorem query_by_words (m : TextCondition) (source : Json) (worded : Text.words s.toList = Text.words t.toList) :
    ({ m with query := s } : TextCondition).matchesSource source = ({ m with query := t } : TextCondition).matchesSource source := by
  simp only [matchesSource, worded]

theorem document_by_words (m : TextCondition) (worded : Text.words s.toList = Text.words t.toList)
    (replaced : Json.Replaced s t v w) : m.matchesSource v = m.matchesSource w := by
  rw [matchesSource, matchesSource]
  rcases Json.get_replaced replaced m.field with same | ⟨a, b, left, right, inside⟩
  · rw [same]
  · rw [left, right]
    simp only [words_of_replaced worded inside]

def document (text : String) : Json := .object [("text", .string text)]

def phrase (query : String) : TextCondition := ⟨"text", query, .phrase, none⟩

theorem phrase_in_document (query text : String) : (phrase query).matchesSource (document text) = true ↔
    Text.words query.toList ≠ [] ∧ Text.words query.toList <:+: Text.words text.toList := by
  have found : (document text).get? "text" = some (.string text) := rfl
  rw [matches_iff, Holds, phrase, found]
  simp only [Option.some_inj, exists_eq_left', words_of_string, Occurs]

-- A condition that asks for either text holds of the same documents.
def AskedAlike (s t : String) : Prop :=
  ∀ (m : TextCondition) (source : Json), ({ m with query := s } : TextCondition).matchesSource source =
    ({ m with query := t } : TextCondition).matchesSource source

def HeldAlike (s t : String) : Prop :=
  ∀ (m : TextCondition) (v w : Json), Json.Replaced s t v w → m.matchesSource v = m.matchesSource w

theorem words_of_mutual (forward : Text.words s.toList ≠ [] → Text.words s.toList <:+: Text.words t.toList)
    (backward : Text.words t.toList ≠ [] → Text.words t.toList <:+: Text.words s.toList) :
    Text.words s.toList = Text.words t.toList := by
  by_cases left : Text.words s.toList = []
  · by_cases right : Text.words t.toList = []
    · rw [left, right]
    · have inside := backward right
      rw [left] at inside ⊢
      exact (List.infix_nil.mp inside).symm
  · have inside := forward left
    by_cases right : Text.words t.toList = []
    · rw [right] at inside ⊢
      exact List.infix_nil.mp inside
    · exact List.infix_antisymm inside (backward right)

theorem asked_alike_iff : AskedAlike s t ↔ Text.words s.toList = Text.words t.toList := by
  constructor
  · intro alike
    have asked (text : String) : (phrase s).matchesSource (document text) = (phrase t).matchesSource (document text) :=
      alike (phrase s) (document text)
    have within (filled : Text.words s.toList ≠ []) := by
      have itself := (phrase_in_document s s).mpr ⟨filled, List.infix_rfl⟩
      rw [asked s] at itself
      exact (phrase_in_document t s).mp itself
    have around (filled : Text.words t.toList ≠ []) := by
      have itself := (phrase_in_document t t).mpr ⟨filled, List.infix_rfl⟩
      rw [← asked t] at itself
      exact (phrase_in_document s t).mp itself
    exact words_of_mutual (fun filled => (around (within filled).1).2) fun filled => (within (around filled).1).2
  · exact fun worded m source => query_by_words m source worded

theorem held_alike_iff : HeldAlike s t ↔ Text.words s.toList = Text.words t.toList := by
  constructor
  · intro alike
    have held (query : String) : (phrase query).matchesSource (document s) = (phrase query).matchesSource (document t) :=
      alike (phrase query) (document s) (document t) (.member [] [] "text" .here)
    apply words_of_mutual
    · intro filled
      have itself := (phrase_in_document s s).mpr ⟨filled, List.infix_rfl⟩
      rw [held s] at itself
      exact ((phrase_in_document s t).mp itself).2
    · intro filled
      have itself := (phrase_in_document t t).mpr ⟨filled, List.infix_rfl⟩
      rw [← held t] at itself
      exact ((phrase_in_document t s).mp itself).2
  · exact fun worded m v w replaced => document_by_words m worded replaced

/-- Texts of one lower case match alike exactly when the same of their places are lowered otherwise in a text than in a word. -/
theorem case_ignored_iff_astray_alike (s t : String) (same : Text.lowercase s.toList = Text.lowercase t.toList) :
    (AskedAlike s t ↔ Text.astray s.toList = Text.astray t.toList) ∧
      (HeldAlike s t ↔ Text.astray s.toList = Text.astray t.toList) ∧
      ((∀ c ∈ s.toList ++ t.toList, c ≠ Text.dottedCapital ∧ c ≠ Text.capitalSigma) → AskedAlike s t ∧ HeldAlike s t) := by
  have asked : AskedAlike s t ↔ Text.astray s.toList = Text.astray t.toList := by
    rw [asked_alike_iff, Text.words_eq_iff same]
  have held : HeldAlike s t ↔ Text.astray s.toList = Text.astray t.toList := by
    rw [held_alike_iff, Text.words_eq_iff same]
  refine ⟨asked, held, ?_⟩
  intro plain
  have alike := Text.plain_astray same plain
  exact ⟨asked.mpr alike, held.mpr alike⟩

theorem small_sigma_matches_alike : Text.lowercase "AİΣ".toList = Text.lowercase "aİς".toList ∧
    (AskedAlike "AİΣ" "aİς" ↔ Text.astray "AİΣ".toList = Text.astray "aİς".toList) ∧
      (HeldAlike "AİΣ" "aİς" ↔ Text.astray "AİΣ".toList = Text.astray "aİς".toList) ∧
      ((∀ c ∈ "AİΣ".toList ++ "aİς".toList, c ≠ Text.dottedCapital ∧ c ≠ Text.capitalSigma) →
        AskedAlike "AİΣ" "aİς" ∧ HeldAlike "AİΣ" "aİς") := by
  have same : Text.lowercase "AİΣ".toList = Text.lowercase "aİς".toList := by decide +kernel
  exact ⟨same, case_ignored_iff_astray_alike "AİΣ" "aİς" same⟩

/-- A query is told apart by its dotted capital, a document by a sigma that is a word of its own. -/
theorem case_not_ignored :
    (¬ ∀ s t : String, Text.lowercase s.toList = Text.lowercase t.toList → AskedAlike s t) ∧
      ¬ ∀ s t : String, Text.lowercase s.toList = Text.lowercase t.toList → HeldAlike s t := by
  constructor
  · intro ignored
    have alike := ignored "İ" "i\u0307" (by decide +kernel) (phrase "İ") (document "İ")
    have found : (phrase "İ").matchesSource (document "İ") = true := by decide +kernel
    have missed : (phrase "i\u0307").matchesSource (document "İ") = false := by decide +kernel
    exact Bool.false_ne_true (missed.symm.trans (alike.symm.trans found))
  · intro ignored
    have replaced : Json.Replaced "Α.Σ" "α.ς" (document "Α.Σ") (document "α.ς") := .member [] [] "text" .here
    have alike := ignored "Α.Σ" "α.ς" (by decide +kernel) (phrase "σ") (document "Α.Σ") (document "α.ς") replaced
    have found : (phrase "σ").matchesSource (document "Α.Σ") = true := by decide +kernel
    have missed : (phrase "σ").matchesSource (document "α.ς") = false := by decide +kernel
    exact Bool.false_ne_true (missed.symm.trans (alike.symm.trans found))

end TextCondition

end SearchStore

import SearchStore.Proofs.Query.Meaning
import SearchStore.Proofs.Text.Words

/-!
Laws of text conditions: a phrase is found only where its words are, a text is found by itself and by
each of its passages, and other values next to the one that matches take nothing away. Comparing a
phrase with every window of its length comes to the same, and a window of no length is never asked for.
-/

set_option autoImplicit false

namespace SearchStore

namespace Json

def replacing (v : Json) (key : String) (value : Json) : Json :=
  match v with
  | .object members => .object (Keyed.insert members key value)
  | other => other

theorem get_replacing {v earlier : Json} {key : String} (value : Json) (found : v.get? key = some earlier) :
    (v.replacing key value).get? key = some value := by
  cases v with
  | object members => exact Keyed.find_insert_same members key value
  | null => cases found
  | bool b => cases found
  | number n => cases found
  | string s => cases found
  | array items => cases found

theorem item_strings_append (before after : List Json) :
    itemStrings (before ++ after) = itemStrings before ++ itemStrings after := by
  induction before with
  | nil => rfl
  | cons v rest ih => rw [List.cons_append, itemStrings, ih, itemStrings, List.append_assoc]

end Json

namespace TextCondition

section Windows

variable {α : Type}

def windows (length : Nat) : List α → List (List α)
  | [] => []
  | a :: rest =>
      if length ≤ (a :: rest).length then (a :: rest).take length :: windows length rest else []

def windows? (length : Nat) (l : List α) : Option (List (List α)) :=
  if length = 0 then none else some (windows length l)

theorem mem_windows {length : Nat} (positive : length ≠ 0) (w l : List α) :
    w ∈ windows length l ↔ w <:+: l ∧ w.length = length := by
  induction l with
  | nil =>
      constructor
      · exact nofun
      · rintro ⟨inside, full⟩
        rw [List.infix_nil.mp inside] at full
        exact absurd full.symm positive
  | cons a rest ih =>
      have front : w = (a :: rest).take length → length ≤ (a :: rest).length → w <+: a :: rest ∧ w.length = length := by
        rintro rfl fits
        exact ⟨List.take_prefix _ _, List.length_take_of_le fits⟩
      rw [windows, List.infix_cons_iff]
      by_cases fits : length ≤ (a :: rest).length
      · rw [if_pos fits, List.mem_cons, ih, or_and_right]
        refine or_congr_left ⟨fun taken => front taken fits, ?_⟩
        rintro ⟨start, full⟩
        rw [← full]
        exact List.prefix_iff_eq_take.mp start
      · rw [if_neg fits]
        constructor
        · exact nofun
        · rintro ⟨start | later, full⟩
          · exact absurd (full ▸ start.length_le) fits
          · exact absurd (Nat.le_succ_of_le (full ▸ later.length_le)) fits

end Windows

theorem windows_occur (phrase there : List (List Char)) (asked : phrase ≠ []) :
    (windows? phrase.length there).map (fun ws => ws.any (· == phrase)) = some (occurs phrase there) := by
  have positive : phrase.length ≠ 0 := by simpa using asked
  rw [windows?, if_neg positive, Option.map_some, Option.some_inj, Bool.eq_iff_iff, occurs_iff]
  simp [mem_windows positive]

-- The comparison of a phrase with every window of its length; nothing where a window has none.
def matchesByWindows? (m : TextCondition) (source : Json) : Option Bool :=
  match source.get? m.field with
  | none => some false
  | some value =>
      let asked := Text.words m.query.toList
      if asked.isEmpty then some false
      else
        match m.mode with
        | .terms => some (asked.all (wordsOf value).contains)
        | .phrase => (windows? asked.length (wordsOf value)).map fun ws => ws.any (· == asked)

theorem matches_by_windows (m : TextCondition) (source : Json) :
    m.matchesByWindows? source = some (m.matchesSource source) := by
  rw [matchesByWindows?, matchesSource]
  cases source.get? m.field with
  | none => rfl
  | some value =>
      by_cases wordless : Text.words m.query.toList = []
      · simp [wordless]
      · simp only [List.isEmpty_iff, wordless, ↓reduceIte]
        cases m.mode with
        | terms => rfl
        | phrase => exact windows_occur _ _ wordless

theorem words_of_string (s : String) : wordsOf (.string s) = Text.words s.toList := by
  simp [wordsOf, Json.strings]

theorem words_amid (before after : List Json) (v : Json) :
    wordsOf (.array (before ++ v :: after)) = wordsOf (.array before) ++ wordsOf v ++ wordsOf (.array after) := by
  simp only [wordsOf, Json.strings, Json.item_strings_append, Json.itemStrings, List.flatMap_append, List.append_assoc]

theorem terms_of_phrase {asked there : List (List Char)} (occurs : Occurs .phrase asked there) : Occurs .terms asked there :=
  fun _ word => occurs.subset word

theorem occurs_of_infix (mode : Occurrence) {asked there : List (List Char)} (together : asked <:+: there) :
    Occurs mode asked there := by
  cases mode with
  | terms => exact terms_of_phrase together
  | phrase => exact together

theorem occurs_amid {mode : Occurrence} {asked there : List (List Char)} (before after : List (List Char))
    (occurs : Occurs mode asked there) : Occurs mode asked (before ++ there ++ after) := by
  cases mode with
  | terms =>
      intro word member
      exact List.mem_append_left _ (List.mem_append_right _ (occurs word member))
  | phrase => exact List.IsInfix.trans occurs ⟨before, after, rfl⟩

theorem holds_of_stretch {source : Json} {field s query : String} (mode : Occurrence) {first run last : List (List Char)}
    (found : source.get? field = some (.string s)) (text : Text.Cut Text.isAlphanumeric s.toList (first ++ run ++ last))
    (asked : Text.Cut Text.isAlphanumeric query.toList run) (some : run ≠ []) : Holds source mode field query := by
  have spelled : Text.words query.toList = run.map Text.lowercase := congrArg (List.map _) asked.runs_eq
  have there : wordsOf (.string s) = first.map Text.lowercase ++ run.map Text.lowercase ++ last.map Text.lowercase := by
    rw [words_of_string, Text.words, text.runs_eq, List.map_append, List.map_append]
  refine ⟨_, found, ?_, occurs_of_infix mode ?_⟩
  · rw [spelled]
    exact mt List.map_eq_nil_iff.mp some
  · rw [spelled, there]
    exact ⟨_, _, rfl⟩

theorem holds_of_passage {source : Json} {field s query : String} (mode : Occurrence) {before after : List Char}
    (found : source.get? field = some (.string s)) (passage : s.toList = before ++ (query.toList ++ after))
    (begins : Text.Apart Text.isAlphanumeric before query.toList) (ends : Text.Apart Text.isAlphanumeric query.toList after)
    (filled : ∃ c ∈ query.toList, Text.isAlphanumeric c = true) : Holds source mode field query := by
  obtain ⟨c, member, letter⟩ := filled
  have apart : Text.Apart Text.isAlphanumeric before (query.toList ++ after) := by
    rwa [Text.Apart, List.head?_append_of_ne_nil _ (List.ne_nil_of_mem member)]
  have whole : Text.runs Text.isAlphanumeric s.toList = Text.runs Text.isAlphanumeric before ++
      Text.runs Text.isAlphanumeric query.toList ++ Text.runs Text.isAlphanumeric after := by
    rw [passage, Text.runs_append apart, Text.runs_append ends, List.append_assoc]
  have worded : Text.runs Text.isAlphanumeric query.toList ≠ [] := by
    intro empty
    have outside := Text.runs_eq_nil_iff.mp empty c member
    rw [letter] at outside
    cases outside
  exact holds_of_stretch mode found (Text.cut_iff.mpr whole) (Text.cut_iff.mpr rfl) worded

-- What holds of every text condition and document.
structure Lawful (m : TextCondition) (source : Json) : Prop where
  phrase_has_terms : ({ m with mode := .phrase } : TextCondition).matchesSource source = true →
    ({ m with mode := .terms } : TextCondition).matchesSource source = true
  itself : ∀ s : String, source.get? m.field = some (.string s) → (∃ c ∈ s.toList, Text.isAlphanumeric c = true) →
    ({ m with query := s } : TextCondition).matchesSource source = true
  stretch : ∀ (s query : String) (first run last : List (List Char)), source.get? m.field = some (.string s) →
    Text.Cut Text.isAlphanumeric s.toList (first ++ run ++ last) → Text.Cut Text.isAlphanumeric query.toList run → run ≠ [] →
    ({ m with query := query } : TextCondition).matchesSource source = true
  passage : ∀ (s query : String) (before after : List Char), source.get? m.field = some (.string s) →
    s.toList = before ++ (query.toList ++ after) → Text.Apart Text.isAlphanumeric before query.toList →
    Text.Apart Text.isAlphanumeric query.toList after → (∃ c ∈ query.toList, Text.isAlphanumeric c = true) →
    ({ m with query := query } : TextCondition).matchesSource source = true
  amid : ∀ (value : Json) (before after : List Json), source.get? m.field = some value → m.matchesSource source = true →
    m.matchesSource (source.replacing m.field (.array (before ++ value :: after))) = true
  wordless : (∀ c ∈ m.query.toList, Text.isAlphanumeric c = false) → m.matchesSource source = false
  fieldless : source.get? m.field = none → m.matchesSource source = false
  windowed : m.matchesByWindows? source = some (m.matchesSource source)

/-- The laws of text conditions hold of every condition and every document. -/
theorem text_conditions_lawful (m : TextCondition) (source : Json) : Lawful m source where
  phrase_has_terms matched := by
    obtain ⟨value, found, worded, occurs⟩ := (matches_iff _ source).mp matched
    exact (matches_iff _ source).mpr ⟨value, found, worded, terms_of_phrase occurs⟩
  itself s found filled := by
    have whole : s.toList = [] ++ (s.toList ++ []) := (List.append_nil _).symm
    exact (matches_iff _ source).mpr (holds_of_passage m.mode found whole Text.apart_nil_left Text.apart_nil_right filled)
  stretch s query first run last found text asked some := by
    exact (matches_iff _ source).mpr (holds_of_stretch m.mode found text asked some)
  passage s query before after found passage begins ends filled := by
    exact (matches_iff _ source).mpr (holds_of_passage m.mode found passage begins ends filled)
  amid value before after found matched := by
    obtain ⟨other, same, worded, occurs⟩ := (matches_iff m source).mp matched
    obtain rfl : value = other := Option.some_inj.mp (found.symm.trans same)
    refine (matches_iff m _).mpr ⟨_, Json.get_replacing _ found, worded, ?_⟩
    rw [words_amid]
    exact occurs_amid _ _ occurs
  wordless outside := by
    cases matched : m.matchesSource source with
    | false => rfl
    | true =>
        obtain ⟨value, found, worded, occurs⟩ := (matches_iff m source).mp matched
        exact absurd (Text.words_eq_nil_iff.mpr outside) worded
  fieldless absent := by
    rw [matchesSource, absent]
  windowed := matches_by_windows m source

end TextCondition

end SearchStore

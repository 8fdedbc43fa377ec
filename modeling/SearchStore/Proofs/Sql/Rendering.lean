import Mathlib.Data.List.Forall2
import SearchStore.Proofs.Sql.Conditions

/-!
Predicates as texts and back. The text of a predicate is read as a condition that is true when the
predicate is, whatever its text conditions are; its placeholders are numbered as they stand, and the
parameters are the values of its text conditions from left to right.
-/

set_option autoImplicit false

namespace SearchStore

-- The values of a condition in the order they are bound.
def TextCondition.bound (m : TextCondition) : List String :=
  match m.analyzer with
  | some a => [a, m.field, a, m.query]
  | none => [m.field, m.query]

namespace Predicate

mutual
def conditions : Predicate → List TextCondition
  | .matchAll => []
  | .text m => [m]
  | .and children => conditionsOf children
  | .or children => conditionsOf children

def conditionsOf : List Predicate → List TextCondition
  | [] => []
  | p :: rest => conditions p ++ conditionsOf rest
end

mutual
-- The truth of a predicate when each text condition is true or not at its place, counted from the
-- left.
def value (truth : Nat → Bool) (first : Nat) : Predicate → Bool
  | .matchAll => true
  | .text _ => truth first
  | .and children => allValues truth first children
  | .or children => someValue truth first children

def allValues (truth : Nat → Bool) (first : Nat) : List Predicate → Bool
  | [] => true
  | p :: rest => value truth first p && allValues truth (first + (conditions p).length) rest

def someValue (truth : Nat → Bool) (first : Nat) : List Predicate → Bool
  | [] => false
  | p :: rest => value truth first p || someValue truth (first + (conditions p).length) rest
end

variable {truth : Nat → Bool} {leaf : TextCondition → Bool}

def Agree (truth : Nat → Bool) (leaf : TextCondition → Bool) (first : Nat) (ms : List TextCondition) : Prop :=
  ∀ i m, ms[i]? = some m → truth (first + i) = leaf m

theorem agree_append {first : Nat} {ms more : List TextCondition} (agree : Agree truth leaf first (ms ++ more)) :
    Agree truth leaf first ms ∧ Agree truth leaf (first + ms.length) more := by
  constructor
  · intro i m there
    have inside := (List.getElem?_eq_some_iff.mp there).1
    exact agree i m (by rw [List.getElem?_append_left inside, there])
  · intro i m there
    rw [Nat.add_assoc]
    refine agree (ms.length + i) m ?_
    rw [List.getElem?_append_right (Nat.le_add_right ..), Nat.add_sub_cancel_left, there]

mutual
theorem value_holds : ∀ (p : Predicate) {first : Nat}, Agree truth leaf first p.conditions →
    value truth first p = p.holds leaf
  | .matchAll, _, _ => rfl
  | .text m, _, agree => agree 0 m rfl
  | .and children, _, agree => by
      rw [value, holds]
      exact (values_hold children agree).1
  | .or children, _, agree => by
      rw [value, holds]
      exact (values_hold children agree).2

theorem values_hold : ∀ (ps : List Predicate) {first : Nat}, Agree truth leaf first (conditionsOf ps) →
    allValues truth first ps = allHold leaf ps ∧ someValue truth first ps = someHolds leaf ps
  | [], _, _ => ⟨rfl, rfl⟩
  | p :: rest, _, agree => by
      rw [conditionsOf] at agree
      obtain ⟨here, later⟩ := agree_append agree
      have one := value_holds p here
      obtain ⟨all, some⟩ := values_hold rest later
      rw [allValues, allHold, someValue, someHolds, one, all, some]
      exact ⟨rfl, rfl⟩
end

end Predicate

namespace Sql

namespace TextMatch

def place (n : Nat) (m : TextCondition) : TextMatch :=
  match m.analyzer with
  | some _ => ⟨m.mode, some n, n + 1, some (n + 2), n + 3⟩
  | none => ⟨m.mode, none, n, none, n + 1⟩

def placed (n : Nat) : List TextCondition → List TextMatch
  | [] => []
  | m :: rest => place n m :: placed (n + m.bound.length) rest

structure Binds (values : List String) (m : TextMatch) (c : TextCondition) : Prop where
  mode : m.mode = c.mode
  field : values[m.field - 1]? = some c.field
  query : values[m.query - 1]? = some c.query
  configuration : m.configuration.map (fun n => values[n - 1]?) = c.analyzer.map some
  queryConfiguration : m.queryConfiguration.map (fun n => values[n - 1]?) = c.analyzer.map some

theorem placed_length (n : Nat) (ms : List TextCondition) : (placed n ms).length = ms.length := by
  induction ms generalizing n with
  | nil => rfl
  | cons m rest ih => rw [placed, List.length_cons, List.length_cons, ih]

theorem placed_append (n : Nat) (ms more : List TextCondition) :
    placed n (ms ++ more) = placed n ms ++ placed (n + (ms.flatMap (·.bound)).length) more := by
  induction ms generalizing n with
  | nil => rfl
  | cons m rest ih =>
      rw [List.cons_append, placed, placed, ih, List.flatMap_cons, List.length_append, Nat.add_assoc, List.cons_append]

theorem place_binds (before after : List String) (m : TextCondition) :
    Binds (before ++ (m.bound ++ after)) (place (before.length + 1) m) m := by
  obtain ⟨field, query, mode, analyzer⟩ := m
  cases analyzer <;> constructor <;> simp [place, TextCondition.bound]

theorem placed_bind (before : List String) (ms : List TextCondition) :
    List.Forall₂ (Binds (before ++ ms.flatMap (·.bound))) (placed (before.length + 1) ms) ms := by
  induction ms generalizing before with
  | nil => exact .nil
  | cons m rest ih =>
      have later := ih (before ++ m.bound)
      rw [List.length_append, Nat.add_right_comm, List.append_assoc] at later
      exact .cons (place_binds before _ m) later

end TextMatch

namespace Expression

def textMatches : Expression → List TextMatch
  | .constant _ => []
  | .textMatch m => [m]
  | .and e f => textMatches e ++ textMatches f
  | .or e f => textMatches e ++ textMatches f

def value (truth : Nat → Bool) (first : Nat) : Expression → Bool
  | .constant b => b
  | .textMatch _ => truth first
  | .and e f => value truth first e && value truth (first + e.textMatches.length) f
  | .or e f => value truth first e || value truth (first + e.textMatches.length) f

end Expression

namespace Piece

theorem values_append (a b : List Piece) : values (a ++ b) = values a ++ values b := by
  induction a with
  | nil => rfl
  | cons piece rest ih => cases piece <;> simp [values, ih]

theorem text_from_append (n : Nat) (a b : List Piece) :
    textFrom n (a ++ b) = textFrom n a ++ textFrom (n + (values a).length) b := by
  induction a generalizing n with
  | nil => simp [textFrom, values]
  | cons piece rest ih =>
      cases piece with
      | word s => simp only [List.cons_append, textFrom, values, ih, String.append_assoc]
      | value s =>
          simp only [List.cons_append, textFrom, values, ih, String.append_assoc, List.length_cons]
          rw [Nat.add_right_comm, Nat.add_assoc]

end Piece

theorem lexemes_placeholder (n : Nat) {rest : List Char} (parted : Parted rest) :
    lexemes (placeholder n ++ rest) = placeholder n :: lexemes rest := by
  refine lexemes_word (List.cons_ne_nil _ _) ?_ parted
  intro c member
  rcases List.mem_cons.mp member with rfl | digit
  · decide
  · rw [Nat.toString_eq_ofList_toDigits, String.toList_ofList] at digit
    exact digit_letter (Nat.isDigit_of_mem_toDigits (by decide) (by decide) digit)

structure Rendered (n : Nat) (pieces : List Piece) (k : Level) (ms : List TextCondition)
    (value : (Nat → Bool) → Nat → Bool) (ls : List Lexeme) (e : Expression) : Prop where
  values : Piece.values pieces = ms.flatMap (·.bound)
  cut : ∀ rest, Parted rest → lexemes ((Piece.textFrom n pieces).toList ++ rest) = ls ++ lexemes rest
  derived : Derives k ls e
  textMatches : e.textMatches = TextMatch.placed n ms
  truth : ∀ truth first, e.value truth first = value truth first
  numbered : placeholders ls = (List.range' n (ms.flatMap (·.bound)).length).map placeholder

theorem word_letters (n : Nat) (word : String) (rest : List Piece) :
    (Piece.textFrom n (.word word :: rest)).toList = word.toList ++ (Piece.textFrom n rest).toList := by
  rw [Piece.textFrom, String.toList_append]

theorem value_letters (n : Nat) (value : String) (rest : List Piece) :
    (Piece.textFrom n (.value value :: rest)).toList = placeholder n ++ (Piece.textFrom (n + 1) rest).toList := by
  rw [Piece.textFrom, String.toList_append, String.toList_append]
  rfl

theorem no_letters (n : Nat) : (Piece.textFrom n []).toList = [] := rfl

theorem opening_cut (rest : List Char) :
    lexemes ("to_tsvector(".toList ++ rest) = "to_tsvector".toList :: "(".toList :: lexemes rest := rfl

theorem member_cut (rest : List Char) :
    lexemes ("document -> ".toList ++ rest) = "document".toList :: "->".toList :: lexemes rest := rfl

theorem open_cut (rest : List Char) : lexemes ("(".toList ++ rest) = "(".toList :: lexemes rest := rfl

theorem close_cut (rest : List Char) : lexemes (")".toList ++ rest) = ")".toList :: lexemes rest := rfl

theorem function_cut (mode : Occurrence) (rest : List Char) :
    lexemes ((Condition.queryFunction mode).toList ++ ("(".toList ++ rest)) =
      TextMatch.function mode :: "(".toList :: lexemes rest := by
  cases mode <;> rfl

theorem configuration_cut (n : Nat) (rest : List Char) :
    lexemes (placeholder n ++ ("::regconfig, ".toList ++ rest)) = TextMatch.configured (some n) ++ lexemes rest :=
  lexemes_placeholder n rfl

theorem field_cut (n : Nat) (rest : List Char) :
    lexemes (placeholder n ++ (") @@ ".toList ++ rest)) = placeholder n :: ")".toList :: "@@".toList :: lexemes rest :=
  lexemes_placeholder n rfl

theorem query_cut (n : Nat) (rest : List Char) :
    lexemes (placeholder n ++ (")".toList ++ rest)) = placeholder n :: ")".toList :: lexemes rest :=
  lexemes_placeholder n rfl

theorem text_cut (n : Nat) (m : TextCondition) (rest : List Char) :
    lexemes ((Piece.textFrom n (Condition.ofText m)).toList ++ rest) = (TextMatch.place n m).lexemes ++ lexemes rest := by
  obtain ⟨field, query, mode, analyzer⟩ := m
  cases analyzer <;>
    simp only [Condition.ofText, Condition.analyzer, List.cons_append, List.nil_append, word_letters, value_letters, no_letters,
      List.append_assoc, opening_cut, configuration_cut, member_cut, field_cut, function_cut, query_cut, TextMatch.lexemes,
      TextMatch.place, TextMatch.configured]

theorem text_rendered (n : Nat) (m : TextCondition) :
    Rendered n (Condition.ofText m) .operand [m] (fun truth first => truth first) (TextMatch.place n m).lexemes
      (.textMatch (TextMatch.place n m)) where
  values := by
    obtain ⟨field, query, mode, analyzer⟩ := m
    cases analyzer <;> rfl
  cut rest _ := text_cut n m rest
  derived := .textMatch _
  textMatches := rfl
  truth _ _ := rfl
  numbered := by
    obtain ⟨field, query, mode, analyzer⟩ := m
    cases analyzer <;> cases mode <;> rfl

theorem constant_rendered (n : Nat) (b : Bool) {word : String}
    (constant : word = "TRUE" ∧ b = true ∨ word = "FALSE" ∧ b = false) :
    Rendered n [.word word] .operand [] (fun _ _ => b) [word.toList] (.constant b) where
  values := rfl
  cut rest parted := by
    rw [Piece.textFrom, Piece.textFrom, String.append_empty]
    rcases constant with ⟨rfl, _⟩ | ⟨rfl, _⟩
    · exact lexemes_word (by decide) (by simp [classOf]) parted
    · exact lexemes_word (by decide) (by simp [classOf]) parted
  derived := by
    rcases constant with ⟨rfl, rfl⟩ | ⟨rfl, rfl⟩
    · exact .true
    · exact .false
  textMatches := rfl
  truth _ _ := rfl
  numbered := by rcases constant with ⟨rfl, _⟩ | ⟨rfl, _⟩ <;> rfl

inductive Connective where
  | both
  | either

namespace Connective

def operator : Connective → String
  | .both => " AND "
  | .either => " OR "

def word : Connective → Lexeme
  | .both => "AND".toList
  | .either => "OR".toList

def level : Connective → Level
  | .both => .conjunction
  | .either => .disjunction

def combine : Connective → Expression → Expression → Expression
  | .both => .and
  | .either => .or

def value (truth : Nat → Bool) (first : Nat) : Connective → List Predicate → Bool
  | .both => Predicate.allValues truth first
  | .either => Predicate.someValue truth first

def merge : Connective → Bool → Bool → Bool
  | .both => and
  | .either => or

variable (c : Connective) {ls later : List Lexeme} {e f : Expression}

theorem derives_one (one : Derives .operand ls e) : Derives c.level ls e := by
  cases c with
  | both => exact .operand one
  | either => exact .conjunction (.operand one)

theorem derives_more (one : Derives .operand ls e) (others : Derives c.level later f) :
    Derives c.level (ls ++ c.word :: later) (c.combine e f) := by
  cases c with
  | both => exact .and one others
  | either => exact .or (.operand one) others

theorem derives_group (all : Derives c.level ls e) : Derives .operand ("(".toList :: (ls ++ [")".toList])) e := by
  cases c with
  | both => exact .parentheses (.conjunction all)
  | either => exact .parentheses all

theorem combine_matches : (c.combine e f).textMatches = e.textMatches ++ f.textMatches := by
  cases c <;> rfl

theorem combine_value (truth : Nat → Bool) (first : Nat) :
    (c.combine e f).value truth first = c.merge (e.value truth first) (f.value truth (first + e.textMatches.length)) := by
  cases c <;> rfl

theorem value_one (truth : Nat → Bool) (first : Nat) (p : Predicate) : c.value truth first [p] = p.value truth first := by
  cases c with
  | both => exact Bool.and_true _
  | either => exact Bool.or_false _

theorem value_more (truth : Nat → Bool) (first : Nat) (p : Predicate) (rest : List Predicate) :
    c.value truth first (p :: rest) = c.merge (p.value truth first) (c.value truth (first + p.conditions.length) rest) := by
  cases c <;> rfl

theorem operator_cut (rest : List Char) : lexemes (c.operator.toList ++ rest) = c.word :: lexemes rest := by
  cases c <;> rfl

theorem operator_parts (rest : List Char) : Parted (c.operator.toList ++ rest) := by
  cases c <;> rfl

theorem word_plain : ¬ IsPlaceholder c.word := by
  cases c <;> decide

end Connective

-- What every predicate is shown to be: an operand, wherever its placeholders start.
def Renders (p : Predicate) : Prop :=
  ∀ n, ∃ ls e, Rendered n (Condition.ofPredicate p) .operand p.conditions (fun truth first => p.value truth first) ls e

def joined (c : Connective) (first : List Piece) (rest : List (List Piece)) : List Piece :=
  first ++ rest.flatMap fun d => .word c.operator :: d

theorem joined_rendered (c : Connective) (p : Predicate) (rest : List Predicate) (renders : ∀ q ∈ p :: rest, Renders q) (n : Nat) :
    ∃ ls e, Rendered n (joined c (Condition.ofPredicate p) (Condition.ofPredicates rest)) c.level
      (Predicate.conditionsOf (p :: rest)) (fun truth first => c.value truth first (p :: rest)) ls e := by
  induction rest generalizing p n with
  | nil =>
      obtain ⟨ls, e, one⟩ := renders p (List.mem_cons_self ..) n
      have alone : joined c (Condition.ofPredicate p) (Condition.ofPredicates []) = Condition.ofPredicate p := List.append_nil _
      have only : Predicate.conditionsOf [p] = p.conditions := List.append_nil _
      refine ⟨ls, e, ?_⟩
      rw [alone, only]
      exact { one with derived := c.derives_one one.derived, truth := fun truth first => by rw [one.truth, c.value_one] }
  | cons q more ih =>
      obtain ⟨ls, e, one⟩ := renders p (List.mem_cons_self ..) n
      obtain ⟨later, f, others⟩ := ih q (fun r member => renders r (List.mem_cons_of_mem p member))
        (n + (Piece.values (Condition.ofPredicate p)).length)
      rw [one.values] at others
      refine ⟨ls ++ c.word :: later, c.combine e f, ?_⟩
      have split : joined c (Condition.ofPredicate p) (Condition.ofPredicates (q :: more)) =
          Condition.ofPredicate p ++ .word c.operator :: joined c (Condition.ofPredicate q) (Condition.ofPredicates more) := rfl
      rw [split, Predicate.conditionsOf]
      constructor
      · rw [Piece.values_append, Piece.values, one.values, others.values, List.flatMap_append]
      · intro rest parted
        rw [Piece.text_from_append, String.toList_append, word_letters, one.values, List.append_assoc, List.append_assoc,
          one.cut _ (c.operator_parts _), c.operator_cut, others.cut rest parted, List.append_assoc, List.cons_append]
      · exact c.derives_more one.derived others.derived
      · rw [c.combine_matches, one.textMatches, others.textMatches, TextMatch.placed_append]
      · intro truth first
        rw [c.combine_value, c.value_more, one.truth, others.truth, one.textMatches, TextMatch.placed_length]
      · have plain : placeholders (c.word :: later) = placeholders later := List.filter_cons_of_neg (by simpa using c.word_plain)
        rw [placeholders, List.filter_append, ← placeholders, ← placeholders, plain, one.numbered, others.numbered,
          ← List.map_append, List.range'_append_1, List.flatMap_append, List.length_append]

def Connective.constant : Connective → Bool
  | .both => true
  | .either => false

def Connective.constantWord : Connective → String
  | .both => "TRUE"
  | .either => "FALSE"

theorem group_rendered (c : Connective) (children : List Predicate) (renders : ∀ q ∈ children, Renders q) (n : Nat) :
    ∃ ls e, Rendered n (Condition.join c.operator c.constantWord (Condition.ofPredicates children)) .operand
      (Predicate.conditionsOf children) (fun truth first => c.value truth first children) ls e := by
  cases children with
  | nil =>
      refine ⟨[c.constantWord.toList], .constant c.constant, ?_⟩
      cases c with
      | both => exact constant_rendered n true (Or.inl ⟨rfl, rfl⟩)
      | either => exact constant_rendered n false (Or.inr ⟨rfl, rfl⟩)
  | cons p rest =>
      obtain ⟨ls, e, all⟩ := joined_rendered c p rest renders n
      have shape : Condition.join c.operator c.constantWord (Condition.ofPredicates (p :: rest)) =
          .word "(" :: (joined c (Condition.ofPredicate p) (Condition.ofPredicates rest) ++ [.word ")"]) := rfl
      refine ⟨"(".toList :: (ls ++ [")".toList]), e, ?_⟩
      rw [shape]
      constructor
      · rw [Piece.values, Piece.values_append, all.values]
        exact List.append_nil _
      · intro rest _
        have closing : Parted (")".toList ++ rest) := rfl
        rw [word_letters, Piece.text_from_append, String.toList_append, word_letters, no_letters, List.append_nil,
          List.append_assoc, List.append_assoc, open_cut, all.cut _ closing, close_cut]
        simp
      · exact c.derives_group all.derived
      · exact all.textMatches
      · exact all.truth
      · rw [← all.numbered]
        simp [placeholders, IsPlaceholder]

mutual
theorem renders_all : ∀ p : Predicate, Renders p
  | .matchAll, n => ⟨_, _, constant_rendered n true (Or.inl ⟨rfl, rfl⟩)⟩
  | .text m, n => ⟨_, _, text_rendered n m⟩
  | .and children, n => group_rendered .both children (renders_each children) n
  | .or children, n => group_rendered .either children (renders_each children) n

theorem renders_each : ∀ (ps : List Predicate), ∀ q ∈ ps, Renders q
  | p :: rest, q, member => by
      rcases List.mem_cons.mp member with same | later
      · rw [same]
        exact renders_all p
      · exact renders_each rest q later
end

/-- The text of a selection is read in one way only, as a condition that says what the predicate does, with the values
bound in the order of its placeholders. -/
theorem rendered_condition_reads_back (r : Relation) (p : Predicate) :
    ∃ text e, (Statement.selectDocuments r p).text =
        "SELECT id, document, version FROM " ++ quotedTable r ++ " WHERE " ++ text ∧
      Reads text e ∧ (∀ f, Reads text f → f = e) ∧
      (∀ truth, e.value truth 0 = p.value truth 0) ∧
      (∀ leaf, p.holds leaf = e.value (fun i => (p.conditions[i]?.map leaf).getD false) 0) ∧
      (Statement.selectDocuments r p).parameters = (p.conditions.flatMap (·.bound)).map .text ∧
      placeholders (lexemes text.toList) =
        (List.range' 1 (Statement.selectDocuments r p).parameters.length).map placeholder ∧
      List.Forall₂ (TextMatch.Binds (p.conditions.flatMap (·.bound))) e.textMatches p.conditions := by
  obtain ⟨ls, e, rendered⟩ := renders_all p 1
  have cut := rendered.cut [] rfl
  rw [List.append_nil, show lexemes [] = [] from rfl, List.append_nil] at cut
  have reads : Reads (Piece.textFrom 1 (Condition.ofPredicate p)) e := by
    rw [Reads, cut]
    exact .conjunction (.operand rendered.derived)
  have parameters : (Statement.selectDocuments r p).parameters = (p.conditions.flatMap (·.bound)).map .text :=
    congrArg (List.map Parameter.text) rendered.values
  refine ⟨_, e, rfl, reads, fun f other => reads_unique other reads, fun truth => rendered.truth truth 0, ?_, parameters, ?_, ?_⟩
  · intro leaf
    rw [rendered.truth]
    refine (Predicate.value_holds p ?_).symm
    intro i m there
    simp [there]
  · rw [cut, rendered.numbered, parameters, List.length_map]
  · rw [rendered.textMatches]
    exact TextMatch.placed_bind [] p.conditions

end Sql

end SearchStore

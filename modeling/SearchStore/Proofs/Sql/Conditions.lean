import SearchStore.Proofs.Sql.Lexemes
import SearchStore.Proofs.Store.Rows

/-!
The grammar of conditions: constants, text matches and parentheses are operands, `AND` binds tighter
than `OR`. What is read is an expression with placeholders in its matches, and a text is read in one
way only.
-/

set_option autoImplicit false

namespace SearchStore.Sql

-- A match of a field against a query, which name the parameters at their places.
structure TextMatch where
  mode : Occurrence
  configuration : Option Nat
  field : Nat
  queryConfiguration : Option Nat
  query : Nat
deriving DecidableEq

namespace TextMatch

def configured : Option Nat → List Lexeme
  | some n => [placeholder n, "::".toList, "regconfig".toList, ",".toList]
  | none => []

def function : Occurrence → Lexeme
  | .terms => "plainto_tsquery".toList
  | .phrase => "phraseto_tsquery".toList

def lexemes (m : TextMatch) : List Lexeme :=
  "to_tsvector".toList :: "(".toList :: (configured m.configuration
    ++ "document".toList :: "->".toList :: placeholder m.field :: ")".toList :: "@@".toList :: function m.mode
      :: "(".toList :: (configured m.queryConfiguration ++ [placeholder m.query, ")".toList]))

end TextMatch

inductive Expression where
  | constant (b : Bool)
  | textMatch (m : TextMatch)
  | and (e f : Expression)
  | or (e f : Expression)
deriving DecidableEq

inductive Level where
  | operand
  | conjunction
  | disjunction

inductive Derives : Level → List Lexeme → Expression → Prop where
  | true : Derives .operand ["TRUE".toList] (.constant true)
  | false : Derives .operand ["FALSE".toList] (.constant false)
  | textMatch (m : TextMatch) : Derives .operand m.lexemes (.textMatch m)
  | parentheses {ls : List Lexeme} {e : Expression} (inner : Derives .disjunction ls e) :
      Derives .operand ("(".toList :: (ls ++ [")".toList])) e
  | operand {ls : List Lexeme} {e : Expression} (one : Derives .operand ls e) : Derives .conjunction ls e
  | and {ls later : List Lexeme} {e f : Expression} (one : Derives .operand ls e) (others : Derives .conjunction later f) :
      Derives .conjunction (ls ++ "AND".toList :: later) (.and e f)
  | conjunction {ls : List Lexeme} {e : Expression} (one : Derives .conjunction ls e) : Derives .disjunction ls e
  | or {ls later : List Lexeme} {e f : Expression} (one : Derives .conjunction ls e) (others : Derives .disjunction later f) :
      Derives .disjunction (ls ++ "OR".toList :: later) (.or e f)

def Level.continued : Level → List Lexeme
  | .operand => []
  | .conjunction => ["AND".toList]
  | .disjunction => ["AND".toList, "OR".toList]

def Level.EndsBefore (k : Level) (ls : List Lexeme) : Prop := ∀ l ∈ ls.head?, l ∉ k.continued

theorem placeholder_injective {m n : Nat} (same : placeholder m = placeholder n) : m = n :=
  Table.decimal_injective (String.toList_injective (List.cons.inj same).2)

theorem function_injective {a b : Occurrence} (same : TextMatch.function a = TextMatch.function b) : a = b := by
  cases a <;> cases b <;> first | rfl | exact absurd same (by decide)

theorem configured_unique {c d : Option Nat} {x y : List Lexeme} (left : x[1]? ≠ some "::".toList)
    (right : y[1]? ≠ some "::".toList) (same : TextMatch.configured c ++ x = TextMatch.configured d ++ y) :
    c = d ∧ x = y := by
  cases c with
  | none =>
      cases d with
      | none => exact ⟨rfl, same⟩
      | some n =>
          change x = placeholder n :: "::".toList :: _ at same
          exact absurd (by rw [same]; rfl) left
  | some m =>
      cases d with
      | none =>
          change placeholder m :: "::".toList :: _ = y at same
          exact absurd (by rw [← same]; rfl) right
      | some n =>
          simp only [TextMatch.configured, List.cons_append, List.nil_append, List.cons.injEq, true_and] at same
          exact ⟨congrArg some (placeholder_injective same.1), same.2⟩

theorem match_unique {a b : TextMatch} {x y : List Lexeme} (same : a.lexemes ++ x = b.lexemes ++ y) : a = b ∧ x = y := by
  obtain ⟨mode, configuration, field, queryConfiguration, query⟩ := a
  obtain ⟨mode', configuration', field', queryConfiguration', query'⟩ := b
  simp only [TextMatch.lexemes, List.cons_append, List.append_assoc, List.cons.injEq, true_and] at same
  obtain ⟨configurations, body⟩ := configured_unique (by simp) (by simp) same
  simp only [List.cons.injEq, true_and] at body
  obtain ⟨fields, functions, queryPart⟩ := body
  obtain ⟨queryConfigurations, ends⟩ := configured_unique (by simp) (by simp) queryPart
  simp only [List.nil_append, List.cons.injEq, true_and] at ends
  rw [configurations, placeholder_injective fields, function_injective functions, queryConfigurations,
    placeholder_injective ends.1]
  exact ⟨rfl, ends.2⟩

theorem operand_ends (ls : List Lexeme) : Level.operand.EndsBefore ls := by
  intro l _ member
  cases member

theorem conjunction_ends {ls : List Lexeme} (ends : Level.disjunction.EndsBefore ls) : Level.conjunction.EndsBefore ls := by
  intro l first member
  exact ends l first (List.mem_cons.mpr (Or.inl (List.mem_singleton.mp member)))

theorem or_ends (ls : List Lexeme) : Level.conjunction.EndsBefore ("OR".toList :: ls) := by
  intro l first
  cases first
  decide

variable {k : Level} {a b x y : List Lexeme} {e f : Expression}

theorem derives_unique (first : Derives k a e) (second : Derives k b f) (same : a ++ x = b ++ y)
    (left : k.EndsBefore x) (right : k.EndsBefore y) : a = b ∧ e = f ∧ x = y := by
  induction first generalizing b f x y with
  | true =>
      cases second with
      | true => exact ⟨rfl, rfl, (List.cons.inj same).2⟩
      | false | textMatch | parentheses => cases (List.cons.inj same).1
  | false =>
      cases second with
      | false => exact ⟨rfl, rfl, (List.cons.inj same).2⟩
      | true | textMatch | parentheses => cases (List.cons.inj same).1
  | textMatch m =>
      cases second with
      | textMatch n =>
          obtain ⟨rfl, rest⟩ := match_unique same
          exact ⟨rfl, rfl, rest⟩
      | true | false | parentheses => cases (List.cons.inj same).1
  | parentheses inner ih =>
      cases second with
      | true | false | textMatch => cases (List.cons.inj same).1
      | parentheses other =>
          simp only [List.cons_append, List.append_assoc, List.cons.injEq, true_and] at same
          have closing (ls : List Lexeme) : Level.disjunction.EndsBefore ([")".toList] ++ ls) := by
            intro l head
            cases head
            decide
          obtain ⟨rfl, rfl, rest⟩ := ih other same (closing _) (closing _)
          exact ⟨rfl, rfl, (List.cons.inj rest).2⟩
  | operand one ih =>
      cases second with
      | operand single => exact ih single same (operand_ends x) (operand_ends y)
      | and single others =>
          rw [List.append_assoc] at same
          obtain ⟨_, _, rfl⟩ := ih single same (operand_ends x) (operand_ends _)
          exact absurd (List.mem_singleton_self _) (left _ rfl)
  | and one others ih ihs =>
      rw [List.append_assoc] at same
      cases second with
      | operand single =>
          obtain ⟨_, _, rfl⟩ := ih single same (operand_ends _) (operand_ends y)
          exact absurd (List.mem_singleton_self _) (right _ rfl)
      | and single more =>
          rw [List.append_assoc] at same
          obtain ⟨rfl, rfl, rest⟩ := ih single same (operand_ends _) (operand_ends _)
          obtain ⟨rfl, rfl, rest⟩ := ihs more (List.cons.inj rest).2 left right
          exact ⟨rfl, rfl, rest⟩
  | conjunction one ih =>
      cases second with
      | conjunction single => exact ih single same (conjunction_ends left) (conjunction_ends right)
      | or single others =>
          rw [List.append_assoc] at same
          obtain ⟨_, _, rfl⟩ := ih single same (conjunction_ends left) (or_ends _)
          exact absurd (by decide) (left _ rfl)
  | or one others ih ihs =>
      rw [List.append_assoc] at same
      cases second with
      | conjunction single =>
          obtain ⟨_, _, rfl⟩ := ih single same (or_ends _) (conjunction_ends right)
          exact absurd (by decide) (right _ rfl)
      | or single more =>
          rw [List.append_assoc] at same
          obtain ⟨rfl, rfl, rest⟩ := ih single same (or_ends _) (or_ends _)
          obtain ⟨rfl, rfl, rest⟩ := ihs more (List.cons.inj rest).2 left right
          exact ⟨rfl, rfl, rest⟩

-- A text read as a condition: its lexemes, all of them, are a disjunction.
def Reads (text : String) (e : Expression) : Prop := Derives .disjunction (lexemes text.toList) e

theorem reads_unique {text : String} {e f : Expression} (first : Reads text e) (second : Reads text f) : e = f := by
  have ends : Level.disjunction.EndsBefore [] := by
    intro l head
    cases head
  exact (derives_unique first second rfl ends ends).2.1

end SearchStore.Sql

import Mathlib.Data.List.Basic
import Mathlib.Tactic.Tauto
import SearchStore.Proofs.Failures
import SearchStore.Sql.Statement

/-!
Names in the texts of statements. A server takes a text apart at its quotes: double ones stand around
identifiers, single ones around literals, and a quote within is written twice. The names of a relation
stand within quotes and nowhere else, and nothing in them ends the quotes.
-/

set_option autoImplicit false

namespace SearchStore.Sql

inductive Quote where
  | double
  | single
deriving DecidableEq

def Quote.char : Quote → Char
  | .double => '"'
  | .single => '\''

def Quote.ofChar? (c : Char) : Option Quote := [Quote.double, .single].find? (·.char == c)

-- Plain text and quoted text take turns, from plain text to plain text.
inductive Part where
  | plain (s : List Char)
  | quoted (q : Quote) (s : List Char)
deriving DecidableEq

def Part.plain? : Part → Option (List Char)
  | .plain s => some s
  | .quoted _ _ => none

inductive Mode where
  | plain
  | within (q : Quote)
  | after (q : Quote)
deriving DecidableEq

structure Scan where
  parts : List Part
  mode : Mode
  run : List Char
deriving DecidableEq

namespace Scan

def start : Scan := ⟨[], .plain, []⟩

def plainly (parts : List Part) (run : List Char) (c : Char) : Scan :=
  match Quote.ofChar? c with
  | some q => ⟨parts ++ [.plain run], .within q, []⟩
  | none => ⟨parts, .plain, run ++ [c]⟩

def next (s : Scan) (c : Char) : Scan :=
  match s.mode with
  | .plain => plainly s.parts s.run c
  | .within q => if c = q.char then ⟨s.parts, .after q, s.run⟩ else ⟨s.parts, .within q, s.run ++ [c]⟩
  | .after q => if c = q.char then ⟨s.parts, .within q, s.run ++ [c]⟩ else plainly (s.parts ++ [.quoted q s.run]) [] c

def finish (s : Scan) : Option (List Part) :=
  match s.mode with
  | .plain => some (s.parts ++ [.plain s.run])
  | .within _ => none
  | .after q => some (s.parts ++ [.quoted q s.run, .plain []])

end Scan

def partsOf (text : String) : Option (List Part) := (text.toList.foldl Scan.next .start).finish

def Unquoted (s : List Char) : Prop := ∀ c ∈ s, Quote.ofChar? c = none

instance (s : List Char) : Decidable (Unquoted s) := List.decidableBAll _ s

theorem unquoted_append {s t : List Char} (left : Unquoted s) (right : Unquoted t) : Unquoted (s ++ t) :=
  List.forall_mem_append.mpr ⟨left, right⟩

theorem unquoted_literal (letters : List Char) (unquoted : Unquoted letters) : Unquoted (String.ofList letters).toList := by
  rw [String.toList_ofList]
  exact unquoted

theorem filled_literal (c : Char) (rest : List Char) : (String.ofList (c :: rest)).toList ≠ [] := by
  rw [String.toList_ofList]
  exact List.cons_ne_nil c rest

theorem literal_letters (letters : List Char) : (String.ofList letters).toList = letters := String.toList_ofList

theorem append_letters {s t : String} {left right : List Char} (first : s.toList = left) (second : t.toList = right) :
    (s ++ t).toList = left ++ right := by
  rw [String.toList_append, first, second]

theorem unquoted_apart {s : List Char} (unquoted : Unquoted s) (q : Quote) : ∀ c ∈ s, c ≠ q.char := by
  rintro c member rfl
  have none := unquoted _ member
  cases q <;> cases none

namespace Scan

variable {parts : List Part} {run : List Char} {q : Quote}

theorem plain_run {s : List Char} (unquoted : Unquoted s) : s.foldl next ⟨parts, .plain, run⟩ = ⟨parts, .plain, run ++ s⟩ := by
  induction s generalizing run with
  | nil => simp
  | cons c rest ih =>
      obtain ⟨here, later⟩ := List.forall_mem_cons.mp unquoted
      have step : next ⟨parts, .plain, run⟩ c = ⟨parts, .plain, run ++ [c]⟩ := by simp only [next, plainly, here]
      rw [List.foldl_cons, step, ih later, List.append_assoc, List.singleton_append]

theorem quoted_run {s : List Char} (clean : ∀ c ∈ s, c ≠ q.char) :
    s.foldl next ⟨parts, .within q, run⟩ = ⟨parts, .within q, run ++ s⟩ := by
  induction s generalizing run with
  | nil => simp
  | cons c rest ih =>
      obtain ⟨here, later⟩ := List.forall_mem_cons.mp clean
      have step : next ⟨parts, .within q, run⟩ c = ⟨parts, .within q, run ++ [c]⟩ := if_neg here
      rw [List.foldl_cons, step, ih later, List.append_assoc, List.singleton_append]

theorem opened (q : Quote) : next ⟨parts, .plain, run⟩ q.char = ⟨parts ++ [.plain run], .within q, []⟩ := by
  cases q <;> rfl

theorem closed (q : Quote) : next ⟨parts, .within q, run⟩ q.char = ⟨parts, .after q, run⟩ := if_pos rfl

theorem after_run {s : List Char} (unquoted : Unquoted s) (filled : s ≠ []) :
    s.foldl next ⟨parts, .after q, run⟩ = ⟨parts ++ [.quoted q run], .plain, s⟩ := by
  cases s with
  | nil => exact absurd rfl filled
  | cons c rest =>
      obtain ⟨here, later⟩ := List.forall_mem_cons.mp unquoted
      have other : c ≠ q.char := unquoted_apart unquoted q c (List.mem_cons_self ..)
      have step : next ⟨parts, .after q, run⟩ c = ⟨parts ++ [.quoted q run], .plain, [c]⟩ := by
        simp only [next, if_neg other, plainly, here, List.nil_append]
      rw [List.foldl_cons, step, plain_run later, List.singleton_append]

end Scan

def enclose (q : Quote) (s : List Char) : List Char := q.char :: (s ++ [q.char])

def render : List Part → List Char
  | [] => []
  | .plain s :: rest => s ++ render rest
  | .quoted q s :: rest => enclose q s ++ render rest

inductive Regular : List Part → Prop where
  | last (s : List Char) (unquoted : Unquoted s) : Regular [.plain s]
  | next (s : List Char) (unquoted : Unquoted s) (filled : s ≠ []) (q : Quote) (t : List Char)
      (clean : ∀ c ∈ t, c ≠ q.char) (rest : List Part) (regular : Regular rest) : Regular (.plain s :: .quoted q t :: rest)

namespace Scan

variable {parts : List Part} {run : List Char} {q : Quote}

theorem enclosed_run {t : List Char} (clean : ∀ c ∈ t, c ≠ q.char) :
    (enclose q t).foldl next ⟨parts, .plain, run⟩ = ⟨parts ++ [.plain run], .after q, t⟩ := by
  rw [enclose, List.foldl_cons, opened, List.foldl_append, quoted_run clean, List.nil_append]
  exact closed q

theorem regular_after {rest : List Part} (regular : Regular rest) :
    ((render rest).foldl next ⟨parts, .after q, run⟩).finish = some (parts ++ .quoted q run :: rest) := by
  induction regular generalizing parts q run with
  | last s unquoted =>
      rw [render, render, List.append_nil]
      by_cases empty : s = []
      · rw [empty]
        rfl
      · rw [after_run unquoted empty]
        simp [finish]
  | next s unquoted filled p t clean rest regular ih =>
      rw [render, render, List.foldl_append, after_run unquoted filled, List.foldl_append, enclosed_run clean, ih]
      simp

end Scan

theorem parts_of_render {parts : List Part} (regular : Regular parts) {text : String} (written : text.toList = render parts) :
    partsOf text = some parts := by
  rw [partsOf, written]
  cases regular with
  | last s unquoted =>
      rw [render, render, List.append_nil]
      exact congrArg Scan.finish (Scan.plain_run unquoted)
  | next s unquoted filled q t clean rest regular =>
      rw [render, render, List.foldl_append, Scan.start, Scan.plain_run unquoted, List.foldl_append, Scan.enclosed_run clean,
        Scan.regular_after regular]
      rfl

-- A name in which no quote can be, and which no server cuts off.
structure SafeName (name : List Char) : Prop where
  fits : (String.ofList name).utf8ByteSize ≤ 63
  characters : ∀ c ∈ name, c.isAlphanum = true ∨ c = '_' ∨ c = '-'

theorem name_character {c : Char} (accepted : isNameChar c = true) : c.isAlphanum = true ∨ c = '_' ∨ c = '-' := by
  simp only [isNameChar, Bool.or_eq_true, Bool.and_eq_true, decide_eq_true_eq, beq_iff_eq] at accepted
  have letters : c.isAlphanum = (decide ('A'.val ≤ c.val ∧ c.val ≤ 'Z'.val) ||
      (decide ('a'.val ≤ c.val) && decide (c.val ≤ 'z'.val)) || c.isDigit) := rfl
  simp only [letters, Bool.or_eq_true, Bool.and_eq_true, decide_eq_true_eq, UInt32.le_iff_toNat_le, Char.isDigit_iff_toNat]
  simp only [Char.toNat] at accepted
  tauto

theorem checked_name {noun name : String} (checked : checkName noun name = .ok ()) :
    ∀ c ∈ name.toList, isNameChar c = true := by
  rw [checkName] at checked
  split at checked
  · cases checked
  · split at checked
    · rename_i all
      exact List.all_eq_true.mp all
    · cases checked

theorem valid_parts {r : Relation} (valid : Relation.ofNames r.index r.type = .ok r) :
    (∀ c ∈ r.index.toList, isNameChar c = true) ∧ (∀ c ∈ r.type.toList, isNameChar c = true) ∧
      r.sequence.utf8ByteSize ≤ 63 := by
  rw [Relation.ofNames] at valid
  obtain ⟨_, index, valid⟩ := accepted_bind valid
  obtain ⟨_, type, valid⟩ := accepted_bind valid
  rw [checkIndexName] at index
  obtain ⟨_, index, -⟩ := accepted_bind index
  refine ⟨checked_name index, checked_name type, ?_⟩
  dsimp only at valid
  split at valid
  · assumption
  · cases valid

theorem safe_table {r : Relation} (valid : Relation.ofNames r.index r.type = .ok r) : SafeName r.table.toList := by
  obtain ⟨index, type, fits⟩ := valid_parts valid
  constructor
  · rw [String.ofList_toList]
    rw [Relation.sequence, String.utf8ByteSize_append] at fits
    omega
  · intro c member
    rw [Relation.table, String.toList_append, String.toList_append, List.mem_append, List.mem_append] at member
    rcases member with (index' | between) | type'
    · exact name_character (index c index')
    · exact Or.inr (Or.inl (List.mem_singleton.mp between))
    · exact name_character (type c type')

theorem safe_sequence {r : Relation} (valid : Relation.ofNames r.index r.type = .ok r) : SafeName r.sequence.toList := by
  constructor
  · rw [String.ofList_toList]
    exact (valid_parts valid).2.2
  · intro c member
    rw [Relation.sequence, String.toList_append, List.mem_append] at member
    rcases member with table | suffix
    · exact (safe_table valid).characters c table
    · have plain : ∀ c ∈ Relation.sequenceSuffix.toList, isNameChar c = true := List.all_eq_true.mp (by decide)
      exact name_character (plain c suffix)

theorem safe_apart {name : List Char} (safe : SafeName name) (q : Quote) : ∀ c ∈ name, c ≠ q.char := by
  rintro c member rfl
  have characters := safe.characters _ member
  revert characters
  cases q <;> decide

theorem quote_safe {name : String} (safe : SafeName name.toList) : (quote name).toList = enclose .double name.toList := by
  have kept : name.toList.flatMap quoteChar = name.toList := by
    have each : ∀ c ∈ name.toList, quoteChar c = [c] := fun c member => if_neg (safe_apart safe .double c member)
    rw [List.flatMap_congr each]
    exact List.flatMap_singleton' _
  rw [quote, kept, String.toList_ofList]
  rfl

namespace Statement

def relation? : Statement → Option Relation
  | .insertType r _ | .createSequence r | .createTable r | .insertDocument r _ _ | .insertGenerated r _
  | .selectDocument r _ | .updateDocument r _ _ | .deleteDocument r _ | .selectDocuments r _ => some r
  | _ => none

def about (q : Relation) : Statement → Statement
  | .insertType _ options => .insertType q options
  | .createSequence _ => .createSequence q
  | .createTable _ => .createTable q
  | .insertDocument _ id source => .insertDocument q id source
  | .insertGenerated _ source => .insertGenerated q source
  | .selectDocument _ id => .selectDocument q id
  | .updateDocument _ id source => .updateDocument q id source
  | .deleteDocument _ id => .deleteDocument q id
  | .selectDocuments _ p => .selectDocuments q p
  | s => s

theorem about_own {s : Statement} {r : Relation} (own : s.relation? = some r) : s.about r = s := by
  cases s <;> cases own <;> rfl

end Statement

-- What may stand in quotes: a safe name, and as a literal nothing, a backslash, or a safe name in its own
-- quotes.
def Part.Harmless : Part → Prop
  | .plain _ => True
  | .quoted .double name => SafeName name
  | .quoted .single s => s = [] ∨ s = ['\\'] ∨ ∃ name, SafeName name ∧ s = enclose .double name

-- The text falls into harmless parts, with this outside of the quotes.
def Confines (text : String) (outside : List (List Char)) : Prop :=
  ∃ parts, partsOf text = some parts ∧ parts.filterMap Part.plain? = outside ∧ ∀ part ∈ parts, part.Harmless

theorem confines_name {text before after : String} {name : List Char} (safe : SafeName name)
    (written : text.toList = before.toList ++ (enclose .double name ++ after.toList)) (filled : before.toList ≠ [])
    (left : Unquoted before.toList) (right : Unquoted after.toList) : Confines text [before.toList, after.toList] := by
  have regular := Regular.next before.toList left filled .double name (safe_apart safe .double) _ (.last after.toList right)
  refine ⟨_, parts_of_render regular ?_, rfl, ?_⟩
  · rw [written]
    simp [render]
  · simp [Part.Harmless, safe]

theorem digits_unquoted (n : Nat) : Unquoted (toString n).toList := by
  intro c member
  rw [Nat.toString_eq_ofList_toDigits, String.toList_ofList] at member
  have digit := Char.isDigit_iff_toNat.mp (Nat.isDigit_of_mem_toDigits (by decide) (by decide) member)
  have apart (q : Quote) : c ≠ q.char := by
    rintro rfl
    revert digit
    cases q <;> decide
  simp [Quote.ofChar?, (apart _).symm]

def Piece.Unquoted : Piece → Prop
  | .word s => Sql.Unquoted s.toList
  | .value _ => True

theorem text_from_unquoted (n : Nat) {pieces : List Piece} (words : ∀ piece ∈ pieces, piece.Unquoted) :
    Unquoted (Piece.textFrom n pieces).toList := by
  induction pieces generalizing n with
  | nil =>
      rw [Piece.textFrom]
      decide
  | cons piece rest ih =>
      obtain ⟨here, later⟩ := List.forall_mem_cons.mp words
      cases piece with
      | word w =>
          rw [Piece.textFrom, String.toList_append]
          exact unquoted_append here (ih n later)
      | value v =>
          rw [Piece.textFrom, String.toList_append, String.toList_append]
          exact unquoted_append (unquoted_append (by decide) (digits_unquoted n)) (ih (n + 1) later)

theorem text_condition_unquoted (m : TextCondition) : ∀ piece ∈ Condition.ofText m, piece.Unquoted := by
  obtain ⟨field, query, mode, analyzer⟩ := m
  cases analyzer <;> cases mode <;>
    simp [Condition.ofText, Condition.analyzer, Condition.queryFunction, Piece.Unquoted] <;> decide

theorem join_unquoted {operator constant : String} {conditions : List (List Piece)} (joint : Unquoted operator.toList)
    (fallback : Unquoted constant.toList) (each : ∀ pieces ∈ conditions, ∀ piece ∈ pieces, piece.Unquoted) :
    ∀ piece ∈ Condition.join operator constant conditions, piece.Unquoted := by
  cases conditions with
  | nil => exact List.forall_mem_singleton.mpr fallback
  | cons first rest =>
      obtain ⟨here, later⟩ := List.forall_mem_cons.mp each
      have opening : Unquoted "(".toList := by decide
      have closing : Unquoted ")".toList := by decide
      rw [Condition.join, List.forall_mem_append, List.forall_mem_append, List.forall_mem_cons]
      refine ⟨⟨⟨opening, here⟩, ?_⟩, List.forall_mem_singleton.mpr closing⟩
      intro piece member
      obtain ⟨pieces, condition, inside⟩ := List.mem_flatMap.mp member
      rcases List.mem_cons.mp inside with rfl | inside
      · exact joint
      · exact later pieces condition piece inside

mutual
theorem predicate_unquoted : ∀ p, ∀ piece ∈ Condition.ofPredicate p, piece.Unquoted
  | .matchAll => by
      rw [Condition.ofPredicate, List.forall_mem_singleton]
      exact show Unquoted "TRUE".toList by decide
  | .text m => text_condition_unquoted m
  | .and children => join_unquoted (by decide) (by decide) (predicates_unquoted children)
  | .or children => join_unquoted (by decide) (by decide) (predicates_unquoted children)

theorem predicates_unquoted : ∀ ps, ∀ pieces ∈ Condition.ofPredicates ps, ∀ piece ∈ pieces, piece.Unquoted
  | [], _, member => by cases member
  | p :: rest, pieces, member => by
      rcases List.mem_cons.mp member with rfl | member
      · exact predicate_unquoted p
      · exact predicates_unquoted rest pieces member
end

theorem one_name {before after : String} {text : Relation → String} (name : Relation → String)
    (safe : ∀ q : Relation, Relation.ofNames q.index q.type = .ok q → SafeName (name q).toList)
    (written : ∀ q, text q = before ++ quote (name q) ++ after) (filled : before.toList ≠ [])
    (left : Unquoted before.toList) (right : Unquoted after.toList) :
    ∃ outside, ∀ q : Relation, Relation.ofNames q.index q.type = .ok q → Confines (text q) outside := by
  refine ⟨[before.toList, after.toList], fun q valid => ?_⟩
  refine confines_name (safe q valid) ?_ filled left right
  rw [written, String.toList_append, String.toList_append, quote_safe (safe q valid), List.append_assoc]

-- A sequence is named within a literal, in quotes of its own.
theorem confines_default {before between after table sequence : String} (left : SafeName table.toList)
    (right : SafeName sequence.toList) (filled : before.toList ≠ []) (filledToo : between.toList ≠ [])
    (first : Unquoted before.toList) (second : Unquoted between.toList) (third : Unquoted after.toList) :
    Confines (before ++ quote table ++ (between ++ "'") ++ quote sequence ++ ("'" ++ after))
      [before.toList, between.toList, after.toList] := by
  have clean : ∀ c ∈ enclose .double sequence.toList, c ≠ Quote.single.char := by
    rw [enclose, List.forall_mem_cons, List.forall_mem_append, List.forall_mem_singleton]
    exact ⟨by decide, safe_apart right .single, by decide⟩
  have default := Regular.next between.toList second filledToo .single _ clean _ (.last after.toList third)
  have whole := Regular.next before.toList first filled .double _ (safe_apart left .double) _ default
  refine ⟨_, parts_of_render whole ?_, rfl, ?_⟩
  · simp only [String.toList_append, quote_safe left, quote_safe right, render, enclose, List.append_assoc, List.append_nil,
      List.cons_append]
    rfl
  · rw [List.forall_mem_cons, List.forall_mem_cons, List.forall_mem_cons, List.forall_mem_cons, List.forall_mem_singleton]
    exact ⟨trivial, left, trivial, Or.inr (Or.inr ⟨_, right, rfl⟩), trivial⟩

theorem create_table_text (r : Relation) : (Statement.createTable r).text =
    "CREATE TABLE IF NOT EXISTS " ++ quote r.table ++ (" (id VARCHAR(128) PRIMARY KEY DEFAULT nextval(" ++ "'") ++
      quote r.sequence ++ ("'" ++ ")::text, document JSONB NOT NULL, version INTEGER NOT NULL DEFAULT 1)") := by
  have opening : " (id VARCHAR(128) PRIMARY KEY DEFAULT nextval(" ++ "'" = " (id VARCHAR(128) PRIMARY KEY DEFAULT nextval('" :=
    String.toList_injective (append_letters (literal_letters _) (literal_letters _))
  have closing : "'" ++ ")::text, document JSONB NOT NULL, version INTEGER NOT NULL DEFAULT 1)" =
      "')::text, document JSONB NOT NULL, version INTEGER NOT NULL DEFAULT 1)" :=
    String.toList_injective (append_letters (literal_letters _) (literal_letters _))
  rw [opening, closing]
  rfl

def fixed (letters : List Char) : Bool :=
  (letters.foldl Scan.next .start).finish.any fun parts => parts.all fun
    | .plain _ => true
    | .quoted .double _ => false
    | .quoted .single s => s = [] ∨ s = ['\\']

theorem no_name {text : String} {letters : List Char} (written : text.toList = letters) (nameless : fixed letters = true) :
    ∃ outside, ∀ q : Relation, Relation.ofNames q.index q.type = .ok q → Confines text outside := by
  rw [fixed, Option.any_eq_true] at nameless
  obtain ⟨parts, cut, each⟩ := nameless
  rw [← written] at cut
  refine ⟨_, fun q _ => ⟨parts, cut, rfl, fun part member => ?_⟩⟩
  have here := List.all_eq_true.mp each part member
  match part with
  | .plain _ => trivial
  | .quoted .double _ => cases here
  | .quoted .single s =>
      rcases of_decide_eq_true here with empty | slash
      · exact Or.inl empty
      · exact Or.inr (Or.inl slash)

theorem statement_confined (s : Statement) : ∃ outside, ∀ q : Relation, Relation.ofNames q.index q.type = .ok q →
    Confines (s.about q).text outside := by
  have one {before after : String} {text : Relation → String} := @one_name before after text Relation.table fun _ => safe_table
  have three {a b c : List Char} := append_letters (append_letters (literal_letters a) (literal_letters b)) (literal_letters c)
  have four {a b c d : List Char} := append_letters (@three a b c) (literal_letters d)
  have five {a b c d e : List Char} := append_letters (@four a b c d) (literal_letters e)
  cases s with
  | createIndexTable | insertIndex | selectIndex | listIndices | selectType | listTypes => exact no_name three (by decide +kernel)
  | insertType | updateType => exact no_name four (by decide +kernel)
  | createTypeTable => exact no_name five (by decide +kernel)
  | createSequence =>
      exact one_name Relation.sequence (fun _ => safe_sequence) (fun q => String.append_empty.symm) (filled_literal _ _)
        (unquoted_literal _ (by decide +kernel)) (by decide +kernel)
  | createTable =>
      apply Exists.intro
      intro q valid
      rw [Statement.about, create_table_text]
      exact confines_default (safe_table valid) (safe_sequence valid) (filled_literal _ _) (filled_literal _ _)
        (unquoted_literal _ (by decide +kernel)) (unquoted_literal _ (by decide +kernel)) (unquoted_literal _ (by decide +kernel))
  | insertDocument | insertGenerated | updateDocument | deleteDocument =>
      refine one (fun q => String.append_assoc) (filled_literal _ _) (unquoted_literal _ (by decide +kernel)) ?_
      rw [String.toList_append]
      exact unquoted_append (unquoted_literal _ (by decide +kernel)) (unquoted_literal _ (by decide +kernel))
  | selectDocument =>
      exact one (fun q => rfl) (filled_literal _ _) (unquoted_literal _ (by decide +kernel)) (unquoted_literal _ (by decide +kernel))
  | selectDocuments r p =>
      refine one (fun q => String.append_assoc) (filled_literal _ _) (unquoted_literal _ (by decide +kernel)) ?_
      rw [String.toList_append]
      exact unquoted_append (unquoted_literal _ (by decide +kernel)) (text_from_unquoted 1 (predicate_unquoted p))

namespace Statement

def Proper (s : Statement) : Prop := ∀ r : Relation, s.relation? = some r → Relation.ofNames r.index r.type = .ok r

def Confined (s : Statement) : Prop :=
  ∃ outside, Confines s.text outside ∧
    ∀ q : Relation, Relation.ofNames q.index q.type = .ok q → Confines (s.about q).text outside

theorem about_unnamed {s : Statement} (unnamed : s.relation? = none) (q : Relation) : s.about q = s := by
  cases s <;> first | rfl | cases unnamed

theorem confined_of_proper {s : Statement} (proper : s.Proper) : s.Confined := by
  obtain ⟨outside, confined⟩ := statement_confined s
  refine ⟨outside, ?_, confined⟩
  cases named : s.relation? with
  | some r =>
      have own := confined r (proper r named)
      rwa [about_own named] at own
  | none =>
      have some : ∃ q : Relation, Relation.ofNames q.index q.type = .ok q := ⟨⟨"i", "t"⟩, by rfl⟩
      obtain ⟨q, valid⟩ := some
      have own := confined q valid
      rwa [about_unnamed named] at own

end Statement

end SearchStore.Sql

import SearchStore.Proofs.Bulk.Lines
import SearchStore.Proofs.Json.Layout
import SearchStore.Proofs.Json.Records

/-!
Bodies written for a list of actions. For each action there is a line with an object, whose only member is
called as the kind of the action and says which document it is about; behind it, if the kind takes one,
comes a line with the payload. Names that are those of the request may be left out, and blank lines may
stand anywhere. Whatever is written in this way is read as the list of actions.
-/

set_option autoImplicit false

namespace SearchStore.Bulk

open Json

/-! What may be written -/

-- For a name: the name, or nothing or null where the request has the same.
inductive Names (usual : Option String) (name : String) : Option Json → Prop where
  | given : Names usual name (some (.string name))
  | omitted (known : usual = some name) : Names usual name none
  | null (known : usual = some name) : Names usual name (some .null)

-- For an id: a text or an integer; for none nothing, null or the empty text.
inductive Identifies : Option String → Option Json → Prop where
  | text (id : String) : Identifies (some id) (some (.string id))
  | integer (i : Int) (fits : leastInteger ≤ i ∧ i ≤ greatestInteger) :
      Identifies (some (String.ofList (Number.printInt i))) (some (.number (.integer i fits)))
  | omitted : Identifies none none
  | null : Identifies none (some .null)
  | empty : Identifies none (some (.string ""))

-- For a document: an object, in which other members do not matter, or the three in their order.
inductive Describes (index type : Option String) (a : Bulk.Action) : Json → Prop where
  | members {members : List (String × Json)} {i t d : Option Json} (indexed : Under members "_index" i)
      (typed : Under members "_type" t) (identified : Under members "_id" d) (ofIndex : Names index a.index i)
      (ofType : Names type a.type t) (ofId : Identifies a.id d) : Describes index type a (.object members)
  | items {items : List Json} (short : items.length ≤ 3) (ofIndex : Names index a.index items[0]?)
      (ofType : Names type a.type items[1]?) (ofId : Identifies a.id items[2]?) : Describes index type a (.array items)

inductive Padded (s : List Char) : List Char → Prop where
  | around (before after : List Char) (above : Text.allBlank before = true) (below : Text.allBlank after = true) :
      Padded s (before ++ (s ++ after))

inductive HeadLine (index type : Option String) (a : Bulk.Action) (line : List Char) : Prop where
  | laid {content : Json} {s : List Char} (describes : Describes index type a content) (integral : content.Integral)
      (laid : Laid (tokensOf (.object [(a.kind.name, content)])) s) (padded : Padded s line)

-- Members of objects may come in any order; of several under one key the last counts.
inductive PayloadLine (v : Json) (line : List Char) : Prop where
  | laid {w : Json} {s : List Char} (same : (Draft.ofValue w).value? = some v) (integral : w.Integral)
      (shallow : w.nesting ≤ depthLimit) (laid : Laid (tokensOf w) s) (padded : Padded s line)

inductive Renders (index type : Option String) : List Bulk.Action → List (List Char) → Prop where
  | nothing : Renders index type [] []
  | blank {as : List Bulk.Action} {line : List Char} {ls : List (List Char)} (blank : Text.allBlank line = true)
      (later : Renders index type as ls) : Renders index type as (line :: ls)
  | bare {a : Bulk.Action} {as : List Bulk.Action} {line : List Char} {ls : List (List Char)}
      (bare : a.kind.takesPayload = false) (head : HeadLine index type a line) (later : Renders index type as ls) :
      Renders index type (a :: as) (line :: ls)
  | filled {a : Bulk.Action} {as : List Bulk.Action} {v : Json} {line source : List Char} {ls : List (List Char)}
      (takes : a.kind.takesPayload = true) (carries : a.source = some v) (head : HeadLine index type a line)
      (gap : List (List Char)) (blank : ∀ line ∈ gap, Text.allBlank line = true) (payload : PayloadLine v source)
      (later : Renders index type as ls) : Renders index type (a :: as) (line :: (gap ++ source :: ls))

/-! Lines without what surrounds them -/

variable {index type : Option String} {a : Bulk.Action} {as : List Bulk.Action} {s line : List Char}
  {ls gap : List (List Char)} {v content : Json}

theorem drop_blank (blank : Text.allBlank s = true) (line : List Char) :
    (s ++ line).dropWhile Text.isBlank = line.dropWhile Text.isBlank := by
  rw [List.dropWhile_append_of_pos (List.all_eq_true.mp blank)]

theorem drop_none (first : ∀ c ∈ line.head?, Text.isBlank c = false) : line.dropWhile Text.isBlank = line := by
  cases line with
  | nil => rfl
  | cons c rest => exact List.dropWhile_cons_of_neg (by simp [first c rfl])

theorem trim_padded (tight : Tight s) (padded : Padded s line) : Text.trim line = s := by
  obtain ⟨before, after, above, below⟩ := padded
  obtain ⟨filled, first, last⟩ := tight
  have starts : ∀ c ∈ (s ++ after).head?, Text.isBlank c = false := by
    rw [List.head?_append, List.head?_eq_some_head filled, Option.some_or, ← List.head?_eq_some_head filled]
    exact first
  have ends : ∀ c ∈ s.reverse.head?, Text.isBlank c = false := by
    rw [List.head?_reverse]
    exact last
  have turned : Text.allBlank after.reverse = true := by
    rw [Text.allBlank, List.all_reverse]
    exact below
  rw [Text.trim, Text.trimLeft, drop_blank above, drop_none starts, Text.trimRight, List.reverse_append,
    drop_blank turned, drop_none ends, List.reverse_reverse]

theorem trim_blank (blank : Text.allBlank line = true) : Text.trim line = [] := by
  have nothing : line.dropWhile Text.isBlank = [] := List.dropWhile_eq_nil_iff.mpr (List.all_eq_true.mp blank)
  rw [Text.trim, Text.trimLeft, nothing]
  rfl

theorem numbered_blank (blank : ∀ line ∈ gap, Text.allBlank line = true) (n : Nat) (ls : List (List Char)) :
    numberedFrom n (gap ++ ls) = numberedFrom (n + gap.length) ls := by
  induction gap generalizing n with
  | nil => rfl
  | cons line rest ih =>
      obtain ⟨here, later⟩ := List.forall_mem_cons.mp blank
      rw [List.cons_append, numberedFrom, trim_blank here, ih later, List.length_cons, Nat.add_right_comm, Nat.add_assoc]
      rfl

theorem numbered_filled (tight : Tight s) (padded : Padded s line) (n : Nat) (ls : List (List Char)) :
    numberedFrom n (line :: ls) = (n, s) :: numberedFrom (n + 1) ls := by
  rw [numberedFrom, trim_padded tight padded]
  cases s with
  | nil => exact absurd rfl tight.1
  | cons c rest => rfl

/-! Reading a head -/

def offered : Draft.Slot → Option Json → Draft.Slot := Draft.Slot.holding (Draft.within id 2)

theorem name_read {usual : Option String} {name : String} {value : Option Json} (names : Names usual name value)
    {absent : Draft.Slot} (nothing : absent.omissible Draft.string? = some none) :
    ∃ read, (offered absent value).omissible Draft.string? = some read ∧ (read <|> usual) = some name := by
  cases names with
  | given => exact ⟨some name, rfl, rfl⟩
  | omitted known => exact ⟨none, nothing, known⟩
  | null known => exact ⟨none, rfl, known⟩

theorem identifies_read {id : Option String} {value : Option Json} (identifies : Identifies id value)
    (named : id ≠ some "") {absent : Draft.Slot} (nothing : absent.omissible id? = some none) :
    ∃ read, (offered absent value).omissible id? = some read ∧ read.filter (· ≠ "") = id := by
  cases identifies with
  | text id => exact ⟨some id, rfl, by simpa using named⟩
  | integer i fits => exact ⟨some (String.ofList (Number.printInt i)), rfl, by simpa using named⟩
  | omitted => exact ⟨none, nothing, rfl⟩
  | null => exact ⟨none, rfl, rfl⟩
  | empty => exact ⟨some "", rfl, rfl⟩

theorem members_within (f : Number → Number) (level : Nat) (members : List (String × Json)) :
    Draft.membersWithin f level members = members.map fun e => (e.1, Draft.within f level e.2) := by
  induction members with
  | nil => rfl
  | cons e rest ih => rw [Draft.membersWithin, ih, List.map_cons]

theorem member_offered {members : List (String × Json)} {key : String} {value : Option Json}
    (under : Under members key value) :
    Draft.memberSlot (Draft.membersWithin id 2 members) key = some (offered .noMember value) := by
  rw [members_within]
  exact Draft.slot_under _ under

theorem described_slots (describes : Describes index type a content) : ∃ absent i t d,
    (∀ {α : Type} (read : Draft → Option α), Draft.Slot.omissible read absent = some none) ∧
    Names index a.index i ∧ Names type a.type t ∧ Identifies a.id d ∧
    (Draft.within id 1 content).slots? ["_index", "_type", "_id"] =
      some [offered absent i, offered absent t, offered absent d] := by
  cases describes with
  | @members members i t d indexed typed identified ofIndex ofType ofId =>
      refine ⟨.noMember, i, t, d, fun _ => rfl, ofIndex, ofType, ofId, ?_⟩
      have inside : (Draft.within id 1 (.object members)).slots? ["_index", "_type", "_id"] =
          ["_index", "_type", "_id"].mapM (Draft.memberSlot (Draft.membersWithin id 2 members)) := rfl
      simp [inside, member_offered indexed, member_offered typed, member_offered identified]
  | @items items short ofIndex ofType ofId =>
      refine ⟨.noItem, items[0]?, items[1]?, items[2]?, fun _ => rfl, ofIndex, ofType, ofId, ?_⟩
      match items, short with
      | [], _ => rfl
      | [_], _ => rfl
      | [_, _], _ => rfl
      | [_, _, _], _ => rfl

theorem kind_named (kind : ActionKind) : ActionKind.ofName? kind.name = some kind := by
  cases kind <;> decide

theorem head_read (describes : Describes index type a content) (named : a.id ≠ some "") : ∃ head : ActionHead,
    ActionHead.ofDraft? (Draft.within id 0 (.object [(a.kind.name, content)])) = some head ∧ head.kind = a.kind ∧
      (head.index <|> index) = some a.index ∧ (head.type <|> type) = some a.type ∧
      head.id.filter (· ≠ "") = a.id := by
  obtain ⟨absent, i, t, d, nothing, ofIndex, ofType, ofId, slots⟩ := described_slots describes
  obtain ⟨indexRead, readIndex, indexed⟩ := name_read ofIndex (nothing _)
  obtain ⟨typeRead, readType, typed⟩ := name_read ofType (nothing _)
  obtain ⟨idRead, readId, identified⟩ := identifies_read ofId named (nothing _)
  refine ⟨⟨a.kind, indexRead, typeRead, idRead⟩, ?_, rfl, indexed, typed, identified⟩
  have tagged : (Draft.within id 0 (.object [(a.kind.name, content)])).tagged? =
      some (a.kind.name, Draft.within id 1 content) := rfl
  simp only [ActionHead.ofDraft?, tagged, kind_named, slots, readIndex, readType, readId, Option.bind_eq_bind,
    Option.bind_some]

theorem head_line_read (head : HeadLine index type a line) (addressed : Addressed a) : ∃ s,
    Tight s ∧ Padded s line ∧ ∀ n, action index type n s = .ok { a with source := none } := by
  obtain @⟨content, s, describes, integral, laid, padded⟩ := head
  refine ⟨s, laid_tight laid, padded, fun n => ?_⟩
  obtain ⟨head, read, kind, indexed, typed, identified⟩ := head_read describes addressed.named
  have whole : (Json.object [(a.kind.name, content)]).Integral := by
    simpa [Integral, numbers, numbersOfMembers] using integral
  have drafted : (Draft.ofChars? s).bind ActionHead.ofDraft? = some head := by
    rw [layout_drafted whole laid, Option.bind_some, read]
  rw [action_accepted drafted indexed typed, kind, identified]
  exact ⟨addressed.identified, addressed.admitted, rfl⟩

theorem payload_line_read (payload : PayloadLine v line) : ∃ s,
    Tight s ∧ Padded s line ∧ ∀ n, Bulk.payload n s = .ok v := by
  obtain @⟨w, s, same, integral, shallow, laid, padded⟩ := payload
  refine ⟨s, laid_tight laid, padded, fun n => ?_⟩
  rw [Bulk.payload, layout_read integral shallow laid, Option.bind_some, same]

/-! Reading a body -/

-- By induction on the way the lines are written, wherever the numbers start.
theorem rendered_read {ls : List (List Char)} (renders : Renders index type as ls) (acceptable : ∀ a ∈ as, Acceptable a)
    (n : Nat) : actions index type (numberedFrom n ls) = .ok as := by
  induction renders generalizing n with
  | nothing => rfl
  | @blank as line ls blank later ih =>
      have skipped : numberedFrom n (line :: ls) = numberedFrom (n + 1) ls :=
        numbered_blank (List.forall_mem_singleton.mpr blank) n ls
      rw [skipped, ih acceptable]
  | @bare a as line ls bare head later ih =>
      obtain ⟨here, others⟩ := List.forall_mem_cons.mp acceptable
      obtain ⟨s, tight, padded, read⟩ := head_line_read head here.toAddressed
      have empty : a.source = none := by
        have filled := here.filled
        rw [bare] at filled
        simpa using filled
      have same : { a with source := none } = a := by rw [← empty]
      rw [numbered_filled tight padded, actions_bare (read n) bare, ih others, same]
      rfl
  | @filled a as v line source ls takes carries head gap blank payload later ih =>
      obtain ⟨here, others⟩ := List.forall_mem_cons.mp acceptable
      obtain ⟨s, tight, padded, read⟩ := head_line_read head here.toAddressed
      obtain ⟨t, tightPayload, paddedPayload, value⟩ := payload_line_read payload
      have same : { a with source := some v } = a := by rw [← carries]
      rw [numbered_filled tight padded, numbered_blank blank, numbered_filled tightPayload paddedPayload,
        actions_filled (read n) takes, value, ih others, Except.bind, same]
      rfl

/-! The compact body -/

def headOf (a : Bulk.Action) : Json :=
  .object [(a.kind.name, .object (("_index", .string a.index) :: ("_type", .string a.type) ::
    a.id.toList.map fun id => ("_id", .string id)))]

def compactLines : List Bulk.Action → List (List Char)
  | [] => []
  | a :: rest => print (headOf a) :: (a.source.toList.map print ++ compactLines rest)

theorem padded_bare (s : List Char) : Padded s s := by
  have around := Padded.around (s := s) [] [] rfl rfl
  rwa [List.nil_append, List.append_nil] at around

theorem head_of_integral (a : Bulk.Action) : (headOf a).Integral := by
  cases given : a.id <;> simp [headOf, given, Integral, numbers, numbersOfMembers]

theorem head_of_line (index type : Option String) (a : Bulk.Action) : HeadLine index type a (print (headOf a)) := by
  have integral := head_of_integral a
  refine .laid (.members (i := some (.string a.index)) (t := some (.string a.type)) (d := a.id.map .string)
    ?_ ?_ ?_ .given .given ?_) ?_ (value_laid (headOf a) integral) (padded_bare _)
  · cases given : a.id <;> simp [Under]
  · cases given : a.id <;> simp [Under]
  · cases given : a.id <;> simp [Under]
  · cases given : a.id with
    | none => exact .omitted
    | some id => exact .text id
  · simpa [headOf, Integral, numbers, numbersOfMembers] using integral

structure Printable (v : Json) : Prop where
  canonical : v.Canonical
  integral : v.Integral
  shallow : v.nesting ≤ depthLimit

theorem printed_payload (printable : Printable v) : PayloadLine v (print v) :=
  .laid (value_of_draft printable.canonical) printable.integral printable.shallow
    (value_laid v printable.integral) (padded_bare _)

theorem compact_renders (acceptable : ∀ a ∈ as, Acceptable a) (printable : ∀ a ∈ as, ∀ v ∈ a.source, Printable v) :
    Renders index type as (compactLines as) := by
  induction as with
  | nil => exact .nothing
  | cons a rest ih =>
      obtain ⟨here, others⟩ := List.forall_mem_cons.mp acceptable
      obtain ⟨carried, later⟩ := List.forall_mem_cons.mp printable
      have head := head_of_line index type a
      have filled := here.filled
      rw [compactLines]
      cases carries : a.source with
      | none =>
          rw [carries] at filled
          exact .bare filled.symm head (ih others later)
      | some v =>
          rw [carries] at filled
          exact .filled filled.symm carries head [] (by simp) (printed_payload (carried v carries))
            (ih others later)

theorem compact_one_line (printable : ∀ a ∈ as, ∀ v ∈ a.source, Printable v) : ∀ line ∈ compactLines as, '\n' ∉ line := by
  induction as with
  | nil => simp [compactLines]
  | cons a rest ih =>
      obtain ⟨carried, later⟩ := List.forall_mem_cons.mp printable
      have source : ∀ line ∈ a.source.toList.map print, '\n' ∉ line := by
        intro line member
        obtain ⟨v, carries, rfl⟩ := List.mem_map.mp member
        exact value_one_line v (carried v (by simpa using carries)).integral
      rw [compactLines]
      refine List.forall_mem_cons.mpr ⟨value_one_line (headOf a) (head_of_integral a), ?_⟩
      exact List.forall_mem_append.mpr ⟨source, ih later⟩

/-- Actions the store takes, with payloads that can be printed, have a compact body, and every body that is
written for them is read as they are. -/
theorem rendered_actions_read_back (index type : Option String) (as : List Bulk.Action)
    (acceptable : ∀ a ∈ as, Acceptable a) (printable : ∀ a ∈ as, ∀ v ∈ a.source, Printable v) :
    Renders index type as (compactLines as) ∧ (∀ line ∈ compactLines as, '\n' ∉ line) ∧
      ∀ ls, Renders index type as ls → (∀ line ∈ ls, '\n' ∉ line) → parse (bodyOf ls) index type = .ok as := by
  refine ⟨compact_renders acceptable printable, compact_one_line printable, fun ls renders plain => ?_⟩
  rw [parse, numbered_joined plain]
  exact rendered_read renders acceptable 1

def seven : Json := .number (.integer 7 (by decide))

def lookalike : Json := .object [("delete", .object [("_id", .string "1")])]

def mixedActions : List Bulk.Action :=
  [⟨.create, "a", "b", some "7", some lookalike⟩, ⟨.delete, "a", "c", some "x", none⟩]

def mixedLines : List (List Char) :=
  [[], "\x7b\"create\":\x7b\"_id\":7,\"_type\":null\x7d\x7d\r".toList, " \t\r".toList,
    " \x7b\"delete\":\x7b\"_id\":\"1\"\x7d\x7d\r".toList, "\x7b\"delete\":[null,\"c\",\"x\"]\x7d".toList]

theorem lookalike_printable : Printable lookalike := by
  refine ⟨?_, by decide, by decide⟩
  simp [lookalike, Canonical, CanonicalMembers, Keyed.Ordered]

theorem mixed_lines_render : Renders (some "a") (some "b") mixedActions mixedLines := by
  have created : Describes (some "a") (some "b") ⟨.create, "a", "b", some "7", some lookalike⟩
      (.object [("_id", seven), ("_type", .null)]) :=
    .members (i := none) (t := some .null) (d := some seven) rfl rfl rfl (.omitted rfl) (.null rfl) (.integer 7 _)
  have deleted : Describes (some "a") (some "b") ⟨.delete, "a", "c", some "x", none⟩
      (.array [.null, .string "c", .string "x"]) :=
    .items (by decide) (.null rfl) .given (.text "x")
  refine .blank rfl (.filled rfl rfl ?_ [" \t\r".toList] (by decide) ?_ (.bare rfl ?_ .nothing))
  · exact .laid created (by decide) (value_laid _ (by decide)) (.around [] ['\r'] rfl rfl)
  · exact .laid (value_of_draft lookalike_printable.canonical) (by decide) (by decide) (value_laid _ (by decide))
      (.around [' '] ['\r'] rfl rfl)
  · exact .laid deleted (by decide) (value_laid _ (by decide)) (padded_bare _)

theorem mixed_actions_read_back : (∀ a ∈ mixedActions, Acceptable a) ∧
    (∀ a ∈ mixedActions, ∀ v ∈ a.source, Printable v) ∧ Renders (some "a") (some "b") mixedActions mixedLines ∧
    parse (bodyOf mixedLines) (some "a") (some "b") = .ok mixedActions := by
  have acceptable : ∀ a ∈ mixedActions, Acceptable a := by
    intro a member
    simp only [mixedActions, List.mem_cons, List.not_mem_nil, or_false] at member
    rcases member with rfl | rfl
    · exact ⟨⟨by decide, by decide, by decide⟩, rfl⟩
    · exact ⟨⟨by decide, by decide, by decide⟩, rfl⟩
  have printable : ∀ a ∈ mixedActions, ∀ v ∈ a.source, Printable v := by
    intro a member v carried
    simp only [mixedActions, List.mem_cons, List.not_mem_nil, or_false] at member
    rcases member with rfl | rfl
    · cases carried
      exact lookalike_printable
    · cases carried
  have read := (rendered_actions_read_back (some "a") (some "b") mixedActions acceptable printable).2.2
  exact ⟨acceptable, printable, mixed_lines_render, read mixedLines mixed_lines_render (by decide)⟩

end SearchStore.Bulk

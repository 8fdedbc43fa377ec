import SearchStore.Proofs.Json.Canonical
import SearchStore.Proofs.Migration.Outline

/-!
What a migration from a script without faults asks for, counts and leaves behind. Of every index the
pages are consumed up to the first that is empty or has no scroll id; each reported mapping and each
hit consumed is brought into the store in order.
-/

set_option autoImplicit false

namespace SearchStore.Migration

open Store (State Reachable)
open Store.State

-- The pages that are read of a scroll; after its last come empty ones.
def consumed : List ScrollPage → List ScrollPage
  | [] => [.empty]
  | page :: rest => if page.hits.isEmpty ∨ page.scrollId = none then [page] else page :: consumed rest

def pageCalls (pages : List ScrollPage) : List SourceRequest :=
  pages.dropLast.filterMap fun page => page.scrollId.map .nextPage

def lastScroll (pages : List ScrollPage) : Option String := pages.getLast?.bind (·.scrollId)

namespace Script

structure Intact (script : Script) (names : List String) : Prop where
  listed : script.indices = .ok names
  mapped : ∀ e ∈ script.mappings, ∃ mappings, e.2 = .ok mappings
  paged : ∀ e ∈ script.scrolls, ∀ reply ∈ e.2, ∃ page, reply = .ok page

def reported (script : Script) (index : String) : List (String × Json) := (script.mappingsOf index).toOption.getD []

def read (script : Script) (index : String) : List ScrollPage :=
  consumed ((script.pagesOf index).filterMap Except.toOption)

def hits (script : Script) (index : String) : List SourceDocument := (script.read index).flatMap (·.hits)

def calls (script : Script) (index : String) : List SourceRequest :=
  [.typeMappings index, .openScroll index] ++ pageCalls (script.read index)
    ++ ((lastScroll (script.read index)).map SourceRequest.closeScroll).toList

def transfers (script : Script) (index : String) : List Transfer :=
  (script.reported index).map (fun m => .mapping index m.1 m.2) ++ (script.hits index).map .document ++ [.finished index]

end Script

variable {s : State} {n : Summary} {script : Script} {names : List String} {index : String} {bound : Nat}
  {source : ScriptedSource}

theorem consumed_filled (pages : List ScrollPage) : consumed pages ≠ [] := by
  cases pages with
  | nil => simp [consumed]
  | cons page rest =>
      rw [consumed]
      split <;> simp

theorem mappings_reported (intact : script.Intact names) (index : String) :
    script.mappingsOf index = .ok (script.reported index) := by
  rw [Script.reported, Script.mappingsOf]
  cases found : Keyed.find? script.mappings index with
  | none => rfl
  | some reply =>
      obtain ⟨mappings, rfl⟩ := intact.mapped _ (Keyed.mem_of_find found)
      rfl

theorem pages_given (intact : script.Intact names) (index : String) :
    script.pagesOf index = ((script.pagesOf index).filterMap Except.toOption).map .ok := by
  have given : ∀ reply ∈ script.pagesOf index, ∃ page, reply = .ok page := by
    rw [Script.pagesOf]
    cases found : Keyed.find? script.scrolls index with
    | none => simp
    | some replies => exact intact.paged _ (Keyed.mem_of_find found)
  generalize script.pagesOf index = replies at given ⊢
  induction replies with
  | nil => rfl
  | cons reply rest ih =>
      obtain ⟨⟨page, rfl⟩, later⟩ := List.forall_mem_cons.mp given
      rw [List.filterMap_cons_some (f := Except.toOption) (b := page) rfl, List.map_cons, ← ih later]

theorem pages_bounded (script : Script) (index : String) : (script.pagesOf index).length ≤ script.pageBound := by
  have greatest (lengths : List Nat) (start : Nat) : start ≤ lengths.foldl max start ∧
      ∀ k ∈ lengths, k ≤ lengths.foldl max start := by
    induction lengths generalizing start with
    | nil => simp
    | cons k rest ih =>
        obtain ⟨above, others⟩ := ih (max start k)
        refine ⟨by rw [List.foldl_cons]; omega, ?_⟩
        intro j member
        rcases List.mem_cons.mp member with rfl | member
        · rw [List.foldl_cons]
          omega
        · exact others j member
  rw [Script.pagesOf, Script.pageBound]
  cases found : Keyed.find? script.scrolls index with
  | none => simp
  | some replies =>
      exact (greatest _ 0).2 _ (List.mem_map.mpr ⟨(index, replies), Keyed.mem_of_find found, rfl⟩)

theorem consumed_last {page : ScrollPage} (last : page.hits.isEmpty ∨ page.scrollId = none) (rest : List ScrollPage) :
    consumed (page :: rest) = [page] := by
  rw [consumed, if_pos last]

theorem consumed_more {page : ScrollPage} (filled : ¬ page.hits.isEmpty = true) {id : String}
    (scrolled : page.scrollId = some id) (rest : List ScrollPage) : consumed (page :: rest) = page :: consumed rest := by
  rw [consumed, if_neg]
  simp [filled, scrolled]

theorem consumed_next (rest : List ScrollPage) : consumed (rest.headD .empty :: rest.tail) = consumed rest := by
  cases rest with
  | nil => rfl
  | cons page rest => rfl

theorem next_page_given {rest : List ScrollPage} (given : source.pages = rest.map .ok) (id : String) :
    (ScriptedSource.answer (.nextPage id)).run source =
      (.ok (rest.headD .empty), ⟨source.script, source.calls ++ [.nextPage id], rest.tail.map .ok⟩) := by
  have pages : (ScriptedSource.answer (.nextPage id)).run source =
      ((ScriptedSource.takePage source.pages).1,
        ⟨source.script, source.calls ++ [.nextPage id], (ScriptedSource.takePage source.pages).2⟩) := rfl
  rw [pages, given]
  cases rest <;> rfl

theorem outline_pages_consumed (bound : Nat) (page : ScrollPage) (rest : List ScrollPage) (source : ScriptedSource)
    (given : source.pages = rest.map .ok) (enough : page.hits.isEmpty ∨ rest.length < bound) :
    ∃ left, outlinePages ScriptedSource.answer bound page source =
      (lastScroll (consumed (page :: rest)),
        ⟨((consumed (page :: rest)).flatMap (·.hits)).map .document, none,
          ⟨source.script, source.calls ++ pageCalls (consumed (page :: rest)), left⟩⟩) := by
  fun_induction outlinePages generalizing rest with
  | case1 bound page source last =>
      refine ⟨source.pages, ?_⟩
      rw [consumed_last (Or.inl last)]
      simp [lastScroll, pageCalls, Outline.nothing, List.isEmpty_iff.mp last]
  | case2 bound page source filled unscrolled =>
      refine ⟨source.pages, ?_⟩
      rw [consumed_last (Or.inr unscrolled)]
      simp [lastScroll, pageCalls, outlineHits, unscrolled]
  | case3 page source filled id scrolled =>
      rcases enough with last | less
      · exact absurd last filled
      · cases less
  | case4 page source filled id bound scrolled next after replied ih =>
      rw [next_page_given given] at replied
      cases replied
      have less : rest.length < bound + 1 := enough.resolve_left filled
      have later : (rest.headD .empty).hits.isEmpty ∨ rest.tail.length < bound := by
        cases rest with
        | nil => exact Or.inl rfl
        | cons q rest =>
            rw [List.length_cons] at less
            exact Or.inr (by simpa using less)
      obtain ⟨left, ran⟩ := ih rest.tail rfl later
      refine ⟨left, ?_⟩
      rw [ran, consumed_next, consumed_more filled scrolled]
      have following := consumed_filled rest
      simp [lastScroll, pageCalls, hits_and_then, scrolled, List.dropLast_cons_of_ne_nil following,
        List.getLast?_cons, List.getLast?_eq_some_getLast following]
  | case5 page source filled id bound scrolled fault after replied =>
      rw [next_page_given given] at replied
      cases replied

theorem first_page_given (intact : source.script.Intact names) (index : String) :
    (ScriptedSource.answer (.openScroll index)).run source =
      (.ok (((source.script.pagesOf index).filterMap Except.toOption).headD .empty),
        ⟨source.script, source.calls ++ [.openScroll index],
          ((source.script.pagesOf index).filterMap Except.toOption).tail.map .ok⟩) := by
  have pages : (ScriptedSource.answer (.openScroll index)).run source =
      ((ScriptedSource.takePage (source.script.pagesOf index)).1,
        ⟨source.script, source.calls ++ [.openScroll index],
          (ScriptedSource.takePage (source.script.pagesOf index)).2⟩) := rfl
  rw [pages, pages_given intact]
  generalize (source.script.pagesOf index).filterMap Except.toOption = given
  cases given with
  | nil => rfl
  | cons page rest => simp [ScriptedSource.takePage, List.filterMap_map, Function.comp_def, Except.toOption]

theorem outline_mappings_intact (source : ScriptedSource) (intact : source.script.Intact names) (index : String) :
    outlineMappings ScriptedSource.answer index source =
      ⟨(source.script.reported index).map fun m => .mapping index m.1 m.2, none,
        ⟨source.script, source.calls ++ [.typeMappings index], source.pages⟩⟩ := by
  have replied : (ScriptedSource.answer (.typeMappings index)).run source =
      (source.script.mappingsOf index, ⟨source.script, source.calls ++ [.typeMappings index], source.pages⟩) := rfl
  rw [outlineMappings, outlineAsk, replied, mappings_reported intact]

theorem release_scripted (source : ScriptedSource) (id : Option String) : ∃ left, released ScriptedSource.answer source id =
    ⟨source.script, source.calls ++ (id.map SourceRequest.closeScroll).toList, left⟩ := by
  cases id with
  | none => exact ⟨source.pages, by simp [released]⟩
  | some id => exact ⟨source.pages, rfl⟩

theorem outline_documents_intact (source : ScriptedSource) (intact : source.script.Intact names)
    (enough : source.script.pageBound ≤ bound) (index : String) :
    ∃ left, outlineDocuments ScriptedSource.answer bound index source =
      ⟨(source.script.hits index).map .document, none,
        ⟨source.script, source.calls ++ ([.openScroll index] ++ pageCalls (source.script.read index) ++
          ((lastScroll (source.script.read index)).map SourceRequest.closeScroll).toList), left⟩⟩ := by
  rw [outlineDocuments, outlineAsk, first_page_given intact, Script.hits, Script.read]
  have bounded := pages_bounded source.script index
  rw [pages_given intact, List.length_map] at bounded
  generalize (source.script.pagesOf index).filterMap Except.toOption = given at bounded ⊢
  have within : (given.headD .empty).hits.isEmpty ∨ given.tail.length < bound := by
    cases given with
    | nil => exact Or.inl rfl
    | cons page rest =>
        rw [List.length_cons] at bounded
        right
        simp only [List.tail_cons]
        omega
  obtain ⟨left, ran⟩ := outline_pages_consumed bound (given.headD .empty) given.tail
    ⟨source.script, source.calls ++ [.openScroll index], given.tail.map .ok⟩ rfl within
  dsimp only
  rw [ran, consumed_next]
  dsimp only
  obtain ⟨remaining, closed⟩ := release_scripted
    ⟨source.script, source.calls ++ [.openScroll index] ++ pageCalls (consumed given), left⟩ (lastScroll (consumed given))
  refine ⟨remaining, ?_⟩
  rw [closed]
  simp only [List.append_assoc]

theorem outline_index_intact (source : ScriptedSource) (intact : source.script.Intact names)
    (enough : source.script.pageBound ≤ bound) (index : String) :
    ∃ left, outlineIndex ScriptedSource.answer bound index source =
      ⟨source.script.transfers index, none, ⟨source.script, source.calls ++ source.script.calls index, left⟩⟩ := by
  obtain ⟨left, ran⟩ := outline_documents_intact ⟨source.script, source.calls ++ [.typeMappings index], source.pages⟩
    intact enough index
  refine ⟨left, ?_⟩
  simp only [outlineIndex, outline_mappings_intact source intact, Outline.andThen, ran, Script.transfers, Script.calls,
    List.append_assoc, List.cons_append, List.nil_append]

theorem outline_indices_intact (source : ScriptedSource) (intact : source.script.Intact names)
    (enough : source.script.pageBound ≤ bound) (indices : List String) :
    ∃ left, outlineIndices ScriptedSource.answer bound indices source =
      ⟨indices.flatMap source.script.transfers, none,
        ⟨source.script, source.calls ++ indices.flatMap source.script.calls, left⟩⟩ := by
  induction indices generalizing source with
  | nil => exact ⟨source.pages, by simp [outlineIndices, Outline.nothing]⟩
  | cons index rest ih =>
      obtain ⟨between, here⟩ := outline_index_intact source intact enough index
      obtain ⟨left, later⟩ := ih ⟨source.script, source.calls ++ source.script.calls index, between⟩ intact enough
      refine ⟨left, ?_⟩
      simp only [outlineIndices, here, Outline.andThen, later, List.flatMap_cons, List.append_assoc]

theorem outline_intact (intact : script.Intact names) (enough : script.pageBound ≤ bound) :
    ∃ left, outline ScriptedSource.answer bound (.start script) =
      ⟨names.flatMap script.transfers, none, ⟨script, .indexNames :: names.flatMap script.calls, left⟩⟩ := by
  have replied : (ScriptedSource.answer .indexNames).run (.start script) =
      (script.indices, ⟨script, [.indexNames], []⟩) := rfl
  obtain ⟨left, ran⟩ := outline_indices_intact ⟨script, [.indexNames], []⟩ intact enough names
  refine ⟨left, ?_⟩
  rw [outline, outlineAsk, replied, intact.listed]
  exact ran

namespace Transfer

def isMapping : Transfer → Bool
  | mapping _ _ _ => true
  | document _ | finished _ => false

def isDocument : Transfer → Bool
  | document _ => true
  | mapping _ _ _ | finished _ => false

def isFinished : Transfer → Bool
  | finished _ => true
  | mapping _ _ _ | document _ => false

end Transfer

theorem counted_once (t : Transfer) (n : Summary) (s : State) :
    (t.count s n).types = n.types + (if t.isMapping then 1 else 0) ∧
    (t.count s n).documents + (t.count s n).failed = n.documents + n.failed + (if t.isDocument then 1 else 0) ∧
    (t.count s n).indices = n.indices + (if t.isFinished then 1 else 0) := by
  cases t with
  | mapping | finished => simp [Transfer.count, Transfer.isMapping, Transfer.isDocument, Transfer.isFinished]
  | document hit =>
      simp only [Transfer.count]
      split <;> simp [Transfer.isMapping, Transfer.isDocument, Transfer.isFinished] <;> omega

theorem counts_carried (transfers : List Transfer) (n : Summary) (s : State) :
    (carryAll transfers n s).1.types = n.types + transfers.countP Transfer.isMapping ∧
    (carryAll transfers n s).1.documents + (carryAll transfers n s).1.failed =
      n.documents + n.failed + transfers.countP Transfer.isDocument ∧
    (carryAll transfers n s).1.indices = n.indices + transfers.countP Transfer.isFinished := by
  induction transfers generalizing n s with
  | nil => exact ⟨rfl, rfl, rfl⟩
  | cons t rest ih =>
      have here := counted_once t n s
      have later := ih (t.count s n) (t.carry s)
      rw [carry_all_cons, List.countP_cons, List.countP_cons, List.countP_cons]
      omega

theorem transfers_of_index (script : Script) (index : String) :
    (script.transfers index).countP Transfer.isMapping = (script.reported index).length ∧
    (script.transfers index).countP Transfer.isDocument = (script.hits index).length ∧
    (script.transfers index).countP Transfer.isFinished = 1 := by
  simp [Script.transfers, List.countP_append, List.countP_map, Function.comp_def, Transfer.isMapping, Transfer.isDocument,
    Transfer.isFinished]

theorem transfers_counted (script : Script) (names : List String) :
    (names.flatMap script.transfers).countP Transfer.isMapping = (names.flatMap script.reported).length ∧
    (names.flatMap script.transfers).countP Transfer.isDocument = (names.flatMap script.hits).length ∧
    (names.flatMap script.transfers).countP Transfer.isFinished = names.length := by
  induction names with
  | nil => exact ⟨rfl, rfl, rfl⟩
  | cons index rest ih =>
      obtain ⟨mappings, documents, finished⟩ := transfers_of_index script index
      simp only [List.flatMap_cons, List.countP_append, List.length_append, List.length_cons, mappings, documents, finished,
        ih, true_and]
      omega

-- The store takes no such hit: a name or the id is invalid, or the id is taken.
def Rejects (s : State) (hit : SourceDocument) : Prop :=
  Relation.ofNames hit.index hit.type ≠ .ok ⟨hit.index, hit.type⟩ ∨ checkId hit.id ≠ .ok () ∨
    hit.id ∈ (s.memory.table ⟨hit.index, hit.type⟩).ids

-- One row more, at the end of the table of the hit: its source under its id, or under one that is drawn
-- where it has none.
def Appends (hit : SourceDocument) (s s' : State) : Prop :=
  ∃ id, (hit.id ≠ "" → id = hit.id) ∧ id ∉ (s.memory.table ⟨hit.index, hit.type⟩).ids ∧
    (s'.memory.table ⟨hit.index, hit.type⟩).rows =
      (s.memory.table ⟨hit.index, hit.type⟩).rows ++ [⟨id, stored hit.source, 1⟩] ∧
    ∀ q : Relation, q.table ≠ (⟨hit.index, hit.type⟩ : Relation).table → s'.memory.table q = s.memory.table q

-- A rejected hit changes no document and counts as failed. Any other becomes a document and counts as
-- one.
structure Settles (s : State) (hit : SourceDocument) : Prop where
  rejected : Rejects s hit → (∀ q, ((Transfer.document hit).carry s).memory.table q = s.memory.table q) ∧
    ∀ n, (Transfer.document hit).count s n = { n with failed := n.failed + 1 }
  taken : ¬ Rejects s hit → Appends hit s ((Transfer.document hit).carry s) ∧
    ∀ n, (Transfer.document hit).count s n = { n with documents := n.documents + 1 }

-- The type has got the options `{"mappings": {type: mapping}}`, whose text is read as that object again
-- unless it is nested too deep.
structure Describes (index type : String) (m : Json) (s : State) : Prop where
  options : s.memory.typeOf? ⟨index, type⟩ =
    some ⟨type, index, (Json.object [("mappings", .object [(type, m)])]).prettyText⟩
  read : m.Legible → m.Canonical → m.nesting + 2 ≤ Json.depthLimit →
    Json.parse? (Json.object [("mappings", .object [(type, m)])]).prettyText =
      some (.object [("mappings", .object [(type, m.reread)])])

theorem rows_filled (reachable : Reachable s) (r : Relation) : "" ∉ (s.memory.table r).ids := by
  obtain ⟨ops, rfl⟩ := reachable
  intro member
  obtain ⟨d, row, unnamed⟩ := List.mem_map.mp member
  exact (Store.made_rows (Store.table_made ops r) d row).1 unnamed

theorem placed_iff (hit : SourceDocument) :
    Store.place hit.index hit.type ((some hit.id).filter (· ≠ "")) = .ok ⟨hit.index, hit.type⟩ ↔
      Relation.ofNames hit.index hit.type = .ok ⟨hit.index, hit.type⟩ ∧ checkId hit.id = .ok () := by
  rw [Store.place_iff, and_comm]
  refine and_congr_right fun _ => ?_
  by_cases unnamed : hit.id = ""
  · have short : checkId "" = .ok () := by decide
    simp [unnamed, short]
  · simp [unnamed]

theorem unplaced_settles (sound : s.Sound) {hit : SourceDocument} {e : Failure}
    (unplaced : Store.place hit.index hit.type ((some hit.id).filter (· ≠ "")) = .error e) : Settles s hit := by
  have rejects : Rejects s hit := by
    by_contra taken
    simp only [Rejects, not_or, not_not] at taken
    have accepted := (placed_iff hit).mpr ⟨taken.1, taken.2.1⟩
    rw [unplaced] at accepted
    cases accepted
  refine ⟨fun _ => ⟨fun q => ?_, fun n => ?_⟩, fun taken => absurd rejects taken⟩
  · rw [carry_document sound, unplaced]
  · rw [count_document sound, unplaced]

theorem row_appended {hit : SourceDocument} {t : Table} {id : String} (given : hit.id ≠ "" → id = hit.id)
    (free : id ∉ (s.memory.table ⟨hit.index, hit.type⟩).ids)
    (rows : t.rows = (s.memory.table ⟨hit.index, hit.type⟩).rows ++ [⟨id, stored hit.source, 1⟩]) :
    Appends hit s ((s.provide ⟨hit.index, hit.type⟩ "").put ⟨hit.index, hit.type⟩ t) := by
  refine ⟨id, given, free, ?_, fun q apart => ?_⟩
  · exact (congrArg Table.rows (Memory.table_set_same t)).trans rows
  · exact (Memory.table_set_other t apart).trans provide_table

theorem table_put_back (r q : Relation) :
    ((s.provide r "").put r ((s.provide r "").memory.table r)).memory.table q = s.memory.table q := by
  by_cases shared : q.table = r.table
  · rw [Memory.table_shared _ shared, Memory.table_shared _ shared]
    exact (Memory.table_set_same _).trans provide_table
  · exact (Memory.table_set_other _ shared).trans provide_table

section

variable {hit : SourceDocument}
  (placed : Store.place hit.index hit.type ((some hit.id).filter (· ≠ "")) = .ok ⟨hit.index, hit.type⟩)

include placed

theorem placed_rejected_iff : Rejects s hit ↔ hit.id ∈ (s.memory.table ⟨hit.index, hit.type⟩).ids := by
  obtain ⟨named, checked⟩ := (placed_iff hit).mp placed
  simp [Rejects, named, checked]

-- A number is drawn for the hit.
theorem unnamed_settles (reachable : Reachable s) (unnamed : hit.id = "") : Settles s hit := by
  have sound := reachable_sound reachable
  have counted (n : Summary) : (Transfer.document hit).count s n = _ := count_document sound
  have carried : (Transfer.document hit).carry s = _ := carry_document sound
  have generated : (some hit.id).filter (· ≠ "") = none := by simp [unnamed]
  have free : ¬ Rejects s hit := by
    rw [placed_rejected_iff placed, unnamed]
    exact rows_filled reachable _
  have drawn := (s.memory.table ⟨hit.index, hit.type⟩).next_free_least.2.1
  rw [← Bool.not_eq_true, Table.has_id] at drawn
  rw [placed, generated] at counted carried
  simp only [State.insert, provide_table] at carried
  refine ⟨fun rejects => absurd rejects free, fun _ => ⟨?_, counted⟩⟩
  rw [carried]
  exact row_appended (absurd unnamed) drawn rfl

theorem named_settles (reachable : Reachable s) (named : hit.id ≠ "") : Settles s hit := by
  have sound := reachable_sound reachable
  have counted (n : Summary) : (Transfer.document hit).count s n = _ := count_document sound
  have carried : (Transfer.document hit).carry s = _ := carry_document sound
  have given : (some hit.id).filter (· ≠ "") = some hit.id := by simp [named]
  have held : ((s.provide ⟨hit.index, hit.type⟩ "").memory.table ⟨hit.index, hit.type⟩).hasId hit.id = true ↔
      Rejects s hit := by rw [provide_table, Table.has_id, placed_rejected_iff placed]
  rw [placed] at counted carried
  simp only [given, State.insert] at counted carried
  constructor
  · intro rejects
    simp only [if_pos (held.mpr rejects)] at counted carried
    refine ⟨fun q => ?_, counted⟩
    rw [carried]
    exact table_put_back _ q
  · intro taken
    simp only [if_neg (mt held.mp taken)] at counted carried
    simp only [provide_table] at carried
    refine ⟨?_, counted⟩
    rw [carried]
    exact row_appended (fun _ => rfl) (mt (placed_rejected_iff placed).mpr taken) rfl

end

theorem mapping_describes (reachable : Reachable s) {type : String} {m : Json}
    (fits : (Transfer.mapping index type m).Fits) : Describes index type m ((Transfer.mapping index type m).carry s) := by
  refine ⟨mapping_described (reachable_sound reachable) fits, fun legible canonical shallow => ?_⟩
  have inside : (Mapping.wrapped type m).nesting ≤ Json.depthLimit := by
    rwa [Mapping.wrapped_nesting]
  exact Json.pretty_text_read (Mapping.wrapped_legible type legible) (Mapping.wrapped_canonical type canonical) inside

theorem hit_settles (reachable : Reachable s) (hit : SourceDocument) : Settles s hit := by
  cases placed : Store.place hit.index hit.type ((some hit.id).filter (· ≠ "")) with
  | error e => exact unplaced_settles (reachable_sound reachable) placed
  | ok r =>
      obtain rfl := Store.relation_of_names (Store.place_iff.mp placed).2
      by_cases unnamed : hit.id = ""
      · exact unnamed_settles placed reachable unnamed
      · exact named_settles placed reachable unnamed

-- A completed run of a script: what it asked for, what it counted and what it left behind.
structure Accounts (script : Script) (names : List String) (s : State) (n : Summary) (source : ScriptedSource)
    (s' : State) : Prop where
  calls : source.calls = .indexNames :: names.flatMap script.calls
  hits : n.documents + n.failed = (names.flatMap script.hits).length
  added : s'.memory.size = s.memory.size + n.documents
  types : n.types = (names.flatMap script.reported).length
  indices : n.indices = names.length
  left : s' = (names.flatMap script.transfers).foldl Transfer.carry s
  -- Of every mapping and every hit when its turn has come.
  described : ∀ before index type m later, names.flatMap script.transfers = before ++ .mapping index type m :: later →
    Describes index type m ((Transfer.mapping index type m).carry (before.foldl Transfer.carry s))
  settled : ∀ before hit later, names.flatMap script.transfers = before ++ .document hit :: later →
    Settles (before.foldl Transfer.carry s) hit

theorem intact_run_accounts (reachable : Reachable s) (intact : script.Intact names) (enough : script.pageBound ≤ bound)
    {source : ScriptedSource} {s' : State}
    (completed : runInMemory ScriptedSource.answer bound (.start script) s = (.ok n, source, s')) :
    Accounts script names s n source s' := by
  obtain ⟨pages, outlined⟩ := outline_intact intact enough
  obtain ⟨fits, _, asked, carried⟩ := run_completed reachable completed
  rw [outlined] at fits asked carried
  have counted := counts_carried (names.flatMap script.transfers) .zero s
  have grown := size_carry_all reachable (names.flatMap script.transfers) .zero
  have state := carry_all_state (names.flatMap script.transfers) .zero s
  obtain ⟨mappings, documents, finished⟩ := transfers_counted script names
  rw [carried, mappings, documents, finished] at counted
  rw [carried] at grown state
  obtain ⟨types, hits, indices⟩ := counted
  constructor
  · rw [asked]
  · simpa [Summary.zero] using hits
  · simpa [Summary.zero] using grown
  · simpa [Summary.zero] using types
  · simpa [Summary.zero] using indices
  · exact state
  · intro before index type m later split
    have member : Transfer.mapping index type m ∈ names.flatMap script.transfers := by simp [split]
    exact mapping_describes (carried_reachable before reachable) (fits _ member)
  · intro before hit later _
    exact hit_settles (carried_reachable before reachable) hit

theorem mem_transfers {t : Transfer} : t ∈ script.transfers index ↔
    (∃ m ∈ script.reported index, t = .mapping index m.1 m.2) ∨ (∃ hit ∈ script.hits index, t = .document hit) ∨
      t = .finished index := by
  simp [Script.transfers, eq_comm]

theorem transfers_fit_iff : (∀ t ∈ names.flatMap script.transfers, t.Fits) ↔
    ∀ index ∈ names, ∀ m ∈ script.reported index, Relation.ofNames index m.1 = .ok ⟨index, m.1⟩ := by
  constructor
  · intro fits index listed m reported
    have inside : .mapping index m.1 m.2 ∈ script.transfers index := mem_transfers.mpr (Or.inl ⟨m, reported, rfl⟩)
    exact fits _ (List.mem_flatMap.mpr ⟨index, listed, inside⟩)
  · intro named t member
    obtain ⟨index, listed, inside⟩ := List.mem_flatMap.mp member
    rcases mem_transfers.mp inside with ⟨m, reported, rfl⟩ | ⟨hit, _, rfl⟩ | rfl
    · exact named index listed m reported
    · trivial
    · trivial

theorem intact_run_completes (reachable : Reachable s) (intact : script.Intact names)
    (enough : script.pageBound ≤ bound) :
    (∃ n, (runInMemory ScriptedSource.answer bound (.start script) s).1 = .ok n) ↔
      ∀ index ∈ names, ∀ m ∈ script.reported index, Relation.ofNames index m.1 = .ok ⟨index, m.1⟩ := by
  obtain ⟨pages, outlined⟩ := outline_intact intact enough
  rw [← transfers_fit_iff]
  constructor
  · rintro ⟨n, completed⟩
    generalize ran : runInMemory ScriptedSource.answer bound (.start script) s = result at completed
    obtain ⟨outcome, source, s'⟩ := result
    obtain rfl : outcome = .ok n := completed
    have fits := (run_completed reachable ran).1
    rwa [outlined] at fits
  · intro fits
    have fitting : ∀ t ∈ (outline ScriptedSource.answer bound (.start script)).transfers, t.Fits := by rwa [outlined]
    rw [run_fitting reachable fitting, outlined]
    exact ⟨_, rfl⟩

/-- A migration from any script without faults accounts for what it has done, whatever was in the store
before. It comes to its end unless a mapping is reported under a name that no type can have. -/
theorem completed_migration_accounts (reachable : Reachable s) (intact : script.Intact names)
    (enough : script.pageBound ≤ bound) :
    (∀ n source s', runInMemory ScriptedSource.answer bound (.start script) s = (.ok n, source, s') →
      Accounts script names s n source s') ∧
    ((∃ n, (runInMemory ScriptedSource.answer bound (.start script) s).1 = .ok n) ↔
      ∀ index ∈ names, ∀ m ∈ script.reported index, Relation.ofNames index m.1 = .ok ⟨index, m.1⟩) :=
  ⟨fun _ _ _ completed => intact_run_accounts reachable intact enough completed,
    intact_run_completes reachable intact enough⟩

def twoPages : Script where
  indices := .ok ["a"]
  mappings := [("a", .ok [("b", .object [])])]
  scrolls := [("a", [.ok ⟨some "x", 3, [⟨"a", "b", "1", .object []⟩, ⟨"a", "b", "1", .bool true⟩]⟩,
    .ok ⟨none, 3, [⟨"a", "b", "2", .null⟩]⟩])]
  close := .ok ()

theorem two_pages_intact : twoPages.Intact ["a"] := by
  refine ⟨rfl, ?_, ?_⟩
  · intro e member
    obtain rfl := List.mem_singleton.mp member
    exact ⟨_, rfl⟩
  · intro e member
    obtain rfl := List.mem_singleton.mp member
    simp

theorem two_pages_account : Reachable .fresh ∧ twoPages.Intact ["a"] ∧ twoPages.pageBound ≤ 2 ∧
    ∃ n source s', runInMemory ScriptedSource.answer 2 (.start twoPages) .fresh = (.ok n, source, s') ∧
      Accounts twoPages ["a"] .fresh n source s' := by
  have reachable : Reachable .fresh := ⟨[], rfl⟩
  have enough : twoPages.pageBound ≤ 2 := by decide
  obtain ⟨accounts, completes⟩ := completed_migration_accounts reachable two_pages_intact enough
  have fits : ∀ index ∈ ["a"], ∀ m ∈ twoPages.reported index, Relation.ofNames index m.1 = .ok ⟨index, m.1⟩ := by decide
  obtain ⟨n, completed⟩ := completes.mpr fits
  generalize ran : runInMemory ScriptedSource.answer 2 (.start twoPages) .fresh = result at accounts completed ⊢
  obtain ⟨outcome, source, s'⟩ := result
  obtain rfl : outcome = .ok n := completed
  exact ⟨reachable, two_pages_intact, enough, n, source, s', rfl, accounts n source s' rfl⟩

end SearchStore.Migration

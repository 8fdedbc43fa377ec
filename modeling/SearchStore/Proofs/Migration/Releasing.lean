import SearchStore.Proofs.Exchanges
import SearchStore.Proofs.Migration.Outline

/-!
What becomes of the scrolls a migration opens at its source. After the pages of a scroll the id of the
last page is released, and a page without an id takes the place of one that had one: what has been
received before it is not released any more. Neither the source nor the storage is assumed to reply in
any particular way.
-/

set_option autoImplicit false

namespace SearchStore

namespace Dialogue

variable {I : Interface} {α σ : Type}

def exchanged (answer : (r : I.Request) → StateM σ (I.Reply r)) : Dialogue I α → σ → List (Exchange I)
  | .done _, _ => []
  | .ask r next, s =>
      ⟨r, ((answer r).run s).1⟩ :: exchanged answer (next ((answer r).run s).1) ((answer r).run s).2

theorem exchanged_passes (answer : (r : I.Request) → StateM σ (I.Reply r)) (d : Dialogue I α) (s : σ) :
    Passes d (exchanged answer d s) ((d.run answer).run s).1 := by
  induction d generalizing s with
  | done a => exact .done a
  | ask r next ih => exact .ask r next _ _ _ (ih _ _)

end Dialogue

namespace Migration

variable {α β : Type}

def ofSource : Exchange Parties → Option (Exchange Source)
  | ⟨.inl r, reply⟩ => some ⟨r, reply⟩
  | ⟨.inr _, _⟩ => none

def Copying.Asks (op : Copying α) (before : KnownRelations) (asked : List (Exchange Source)) (result : α)
    (after : KnownRelations) : Prop :=
  ∃ calls, Dialogue.Passes (op before) calls (result, after) ∧ calls.filterMap ofSource = asked

def MigrationM.Asks (op : MigrationM α) (before : KnownRelations) (asked : List (Exchange Source))
    (result : Except MigrationError α) (after : KnownRelations) : Prop :=
  Copying.Asks op.run before asked result after

variable {known before after : KnownRelations} {asked : List (Exchange Source)}

namespace Copying

theorem asks_pure {a b : α} (asks : Asks (pure a) before asked b after) : asked = [] ∧ b = a := by
  obtain ⟨calls, passed, rfl⟩ := asks
  obtain ⟨rfl, same⟩ := Dialogue.passes_done.mp passed
  exact ⟨rfl, congrArg Prod.fst same⟩

theorem asks_bind {op : Copying α} {f : α → Copying β} {b : β} (asks : Asks (op >>= f) before asked b after) :
    ∃ first a between later, asked = first ++ later ∧ Asks op before first a between ∧ Asks (f a) between later b after := by
  obtain ⟨calls, passed, rfl⟩ := asks
  obtain ⟨first, ⟨a, between⟩, later, rfl, left, right⟩ := Dialogue.passes_bind.mp passed
  exact ⟨_, a, between, _, List.filterMap_append .., ⟨first, left, rfl⟩, ⟨later, right, rfl⟩⟩

theorem asks_ask {r : SourceRequest} {reply : Except SourceFault r.Answer} (asks : Asks (ask r) before asked reply after) :
    asked = [⟨r, reply⟩] := by
  obtain ⟨calls, passed, rfl⟩ := asks
  cases passed with
  | ask _ _ replied later _ rest =>
      obtain ⟨rfl, same⟩ := Dialogue.passes_done.mp rest
      rw [show reply = replied from congrArg Prod.fst same]
      rfl

theorem nothing_asked_by_second {d : Dialogue Storage α} {calls : List (Exchange Parties)} {a : α}
    (passed : Dialogue.Passes d.withSecond calls a) : calls.filterMap ofSource = [] := by
  induction d generalizing calls with
  | done b =>
      obtain ⟨rfl, _⟩ := Dialogue.passes_done.mp passed
      rfl
  | ask r next ih =>
      cases passed with
      | ask _ _ reply later _ rest =>
          have silent : later.filterMap ofSource = [] := ih reply rest
          exact silent

theorem asks_store {op : StoreM α} {result : Except Failure α} (asks : Asks (store op) before asked result after) :
    asked = [] := by
  obtain ⟨calls, passed, rfl⟩ := asks
  exact nothing_asked_by_second passed

end Copying

namespace MigrationM

theorem asks_pure {a : α} {result : Except MigrationError α} (asks : Asks (pure a) before asked result after) :
    asked = [] := (Copying.asks_pure asks).1

theorem asks_bind {op : MigrationM α} {f : α → MigrationM β} {result : Except MigrationError β}
    (asks : Asks (op >>= f) before asked result after) :
    (∃ e, Asks op before asked (.error e) after) ∨
      ∃ first a between later, asked = first ++ later ∧ Asks op before first (.ok a) between ∧
        Asks (f a) between later result after := by
  obtain ⟨first, outcome, between, later, rfl, left, right⟩ := Copying.asks_bind asks
  cases outcome with
  | error e =>
      obtain ⟨calls, passed, rfl⟩ := right
      obtain ⟨rfl, same⟩ := Dialogue.passes_done.mp passed
      cases same
      rw [List.filterMap_nil, List.append_nil]
      exact Or.inl ⟨e, left⟩
  | ok a => exact Or.inr ⟨first, a, between, later, rfl, left, right⟩

theorem asks_ask {r : SourceRequest} {result : Except MigrationError r.Answer}
    (asks : Asks (ask r) before asked result after) :
    ∃ reply : Except SourceFault r.Answer, asked = [⟨r, reply⟩] ∧ result = reply.mapError .source := by
  obtain ⟨first, reply, between, later, rfl, left, right⟩ := Copying.asks_bind asks
  obtain ⟨rfl, rfl⟩ := Copying.asks_pure right
  exact ⟨reply, by rw [Copying.asks_ask left, List.append_nil], rfl⟩

theorem asks_store {op : StoreM α} {result : Except MigrationError α} (asks : Asks (store op) before asked result after) :
    asked = [] := by
  obtain ⟨first, reply, between, later, rfl, left, right⟩ := Copying.asks_bind asks
  rw [Copying.asks_store left, (Copying.asks_pure right).1, List.append_nil]

end MigrationM

def received : Exchange Source → Option ScrollPage
  | ⟨.openScroll _, .ok page⟩ => some page
  | ⟨.nextPage _, .ok page⟩ => some page
  | _ => none

def isClosing (e : Exchange Source) : Bool :=
  match e.request with
  | .closeScroll _ => true
  | _ => false

def isForPage (e : Exchange Source) : Bool :=
  match e.request with
  | .nextPage _ => true
  | _ => false

def isForMappings (e : Exchange Source) : Bool :=
  match e.request with
  | .typeMappings _ => true
  | _ => false

def pagesOf (calls : List (Exchange Source)) : List ScrollPage := calls.filterMap received

def latestId (calls : List (Exchange Source)) : Option String := ((pagesOf calls).filterMap (·.scrollId)).getLast?

def lastPageId (calls : List (Exchange Source)) : Option String := (pagesOf calls).getLast?.bind (·.scrollId)

def callsForIndex (calls : List (Exchange Source)) : List (Exchange Source) := calls.takeWhile fun e => !isForMappings e

def Released (calls : List (Exchange Source)) : Prop :=
  ∀ id, latestId calls = some id →
    ∃ before reply, calls = before ++ [⟨.closeScroll id, reply⟩] ∧ ∀ e ∈ before, isClosing e = false

structure Scrolled (first : ScrollPage) (later : List (Exchange Source)) : Prop where
  split : ∃ pages closings, later = pages ++ closings ∧ (∀ e ∈ pages, isForPage e = true) ∧
    closings.map Exchange.request = (((pagesOf pages).getLastD first).scrollId.map SourceRequest.closeScroll).toList

inductive ForIndex : List (Exchange Source) → Prop where
  | unmapped (index : String) (reply : Except SourceFault (List (String × Json))) : ForIndex [⟨.typeMappings index, reply⟩]
  | unopened (index name : String) (reply : Except SourceFault (List (String × Json))) (fault : SourceFault) :
      ForIndex [⟨.typeMappings index, reply⟩, ⟨.openScroll name, .error fault⟩]
  | scrolled (index name : String) (reply : Except SourceFault (List (String × Json))) (first : ScrollPage)
      (later : List (Exchange Source)) (scrolled : Scrolled first later) :
      ForIndex (⟨.typeMappings index, reply⟩ :: ⟨.openScroll name, .ok first⟩ :: later)

theorem hits_ask {hits : List SourceDocument} {n result : Summary}
    (asks : Copying.Asks (copyHits hits n) before asked result after) : asked = [] := by
  induction hits generalizing n before asked with
  | nil => exact (Copying.asks_pure asks).1
  | cons hit rest ih =>
      obtain ⟨first, m, between, later, rfl, left, right⟩ := Copying.asks_bind asks
      obtain ⟨created, outcome, known, returned, rfl, stored, counted⟩ := Copying.asks_bind left
      have silent : returned = [] := by
        cases outcome <;> exact (Copying.asks_pure counted).1
      rw [Copying.asks_store stored, silent, ih right, List.append_nil, List.append_nil]

inductive PageStep (bound : Nat) (page : ScrollPage) (e : ScrollEnd) (after : KnownRelations) :
    List (Exchange Source) → Prop where
  | last (kept : e.scrollId = page.scrollId) : PageStep bound page e after []
  | failed (id : String) (fault : SourceFault) (kept : e.scrollId = page.scrollId) :
      PageStep bound page e after [⟨.nextPage id, .error fault⟩]
  | next (id : String) (next : ScrollPage) (less : Nat) (n : Summary) (between : KnownRelations)
      (later : List (Exchange Source)) (fewer : bound = less + 1)
      (asks : Copying.Asks (copyPages less next n) between later e after) :
      PageStep bound page e after (⟨.nextPage id, .ok next⟩ :: later)

variable {bound : Nat} {page first : ScrollPage} {n : Summary} {e : ScrollEnd}

theorem page_step (asks : Copying.Asks (copyPages bound page n) before asked e after) :
    PageStep bound page e after asked := by
  rw [copyPages.eq_def] at asks
  by_cases last : page.hits.isEmpty = true
  · simp only [if_pos last] at asks
    obtain ⟨rfl, rfl⟩ := Copying.asks_pure asks
    exact .last rfl
  · simp only [if_neg last] at asks
    obtain ⟨silent, m, between, later, rfl, left, right⟩ := Copying.asks_bind asks
    rw [hits_ask left, List.nil_append]
    cases scrolled : page.scrollId with
    | none =>
        rw [scrolled] at right
        obtain ⟨rfl, rfl⟩ := Copying.asks_pure right
        exact .last scrolled.symm
    | some id =>
        rw [scrolled] at right
        cases bound with
        | zero =>
            obtain ⟨rfl, rfl⟩ := Copying.asks_pure right
            exact .last scrolled.symm
        | succ less =>
            obtain ⟨call, reply, known, rest, rfl, called, goes⟩ := Copying.asks_bind right
            obtain rfl := Copying.asks_ask called
            cases reply with
            | error fault =>
                obtain ⟨rfl, rfl⟩ := Copying.asks_pure goes
                exact .failed id fault scrolled.symm
            | ok next => exact .next id next less m known rest rfl goes

theorem pages_ask (asks : Copying.Asks (copyPages bound page n) before asked e after) :
    (∀ x ∈ asked, isForPage x = true) ∧ e.scrollId = ((pagesOf asked).getLastD page).scrollId := by
  induction bound generalizing page n before asked with
  | zero =>
      cases page_step asks with
      | last kept => exact ⟨by simp, kept⟩
      | failed id fault kept => exact ⟨by simp [isForPage], kept⟩
      | next _ _ _ _ _ _ fewer _ => cases fewer
  | succ bound ih =>
      cases page_step asks with
      | last kept => exact ⟨by simp, kept⟩
      | failed id fault kept => exact ⟨by simp [isForPage], kept⟩
      | next id next less m between later fewer goes =>
          obtain rfl := Nat.succ.inj fewer
          obtain ⟨pages, ended⟩ := ih goes
          refine ⟨by simpa [isForPage] using pages, ?_⟩
          have more : pagesOf (⟨.nextPage id, .ok next⟩ :: later) = next :: pagesOf later := rfl
          rw [ended, more, List.getLastD_cons]

theorem release_asks {id : Option String} (asks : Copying.Asks (release id) before asked () after) :
    asked.map Exchange.request = (id.map SourceRequest.closeScroll).toList := by
  cases id with
  | none =>
      rw [(Copying.asks_pure asks).1]
      rfl
  | some id =>
      obtain ⟨call, reply, between, later, rfl, called, returned⟩ := Copying.asks_bind asks
      rw [Copying.asks_ask called, (Copying.asks_pure returned).1]
      rfl

theorem documents_ask {index : String} {result : Except MigrationError Summary}
    (asks : MigrationM.Asks (copyDocuments bound index n) before asked result after) :
    (∃ fault, asked = [⟨.openScroll index, .error fault⟩]) ∨
      ∃ first later, asked = ⟨.openScroll index, .ok first⟩ :: later ∧ Scrolled first later := by
  rcases MigrationM.asks_bind asks with ⟨e, failed⟩ | ⟨opening, page, between, later, rfl, opened, finished⟩
  · obtain ⟨reply, rfl, outcome⟩ := MigrationM.asks_ask failed
    cases reply with
    | error fault => exact Or.inl ⟨fault, rfl⟩
    | ok page => cases outcome
  · obtain ⟨reply, rfl, outcome⟩ := MigrationM.asks_ask opened
    cases reply with
    | error fault => cases outcome
    | ok first =>
        cases outcome
        obtain ⟨pages, e, known, rest, rfl, copied, ended⟩ := Copying.asks_bind finished
        obtain ⟨closings, _, _, silent, rfl, released, returned⟩ := Copying.asks_bind ended
        obtain ⟨forPages, last⟩ := pages_ask copied
        rw [(Copying.asks_pure returned).1, List.append_nil]
        refine Or.inr ⟨page, pages ++ closings, rfl, ⟨pages, closings, rfl, forPages, ?_⟩⟩
        rw [release_asks released, last]

theorem each_asks {index : String} {mappings : List (String × Json)} {result : Except MigrationError PUnit}
    (asks : MigrationM.Asks (copyEach index mappings) before asked result after) : asked = [] := by
  induction mappings generalizing before asked with
  | nil => exact MigrationM.asks_pure asks
  | cons m rest ih =>
      rcases MigrationM.asks_bind asks with ⟨e, failed⟩ | ⟨first, a, between, later, rfl, stored, goes⟩
      · exact MigrationM.asks_store failed
      · rw [MigrationM.asks_store stored, List.nil_append]
        exact ih goes

theorem mappings_ask {index : String} {result : Except MigrationError Summary}
    (asks : MigrationM.Asks (copyMappings index n) before asked result after) :
    ∃ reply, asked = [⟨.typeMappings index, reply⟩] := by
  rw [copy_mappings_parts] at asks
  rcases MigrationM.asks_bind asks with ⟨e, failed⟩ | ⟨call, mappings, between, later, rfl, called, copied⟩
  · obtain ⟨reply, rfl, _⟩ := MigrationM.asks_ask failed
    exact ⟨reply, rfl⟩
  · obtain ⟨reply, rfl, _⟩ := MigrationM.asks_ask called
    refine ⟨reply, ?_⟩
    rcases MigrationM.asks_bind copied with ⟨e, failed⟩ | ⟨first, a, known, rest, rfl, stored, returned⟩
    · rw [each_asks failed, List.append_nil]
    · rw [each_asks stored, MigrationM.asks_pure returned, List.append_nil, List.append_nil]

theorem index_asks {index : String} {result : Except MigrationError Summary}
    (asks : MigrationM.Asks (copyIndex bound n index) before asked result after) : ForIndex asked := by
  rcases MigrationM.asks_bind asks with ⟨e, failed⟩ | ⟨mapping, m, between, later, rfl, mapped, goes⟩
  · obtain ⟨reply, rfl⟩ := mappings_ask failed
    exact .unmapped index reply
  · obtain ⟨reply, rfl⟩ := mappings_ask mapped
    have documents : (∃ fault, later = [⟨.openScroll index, .error fault⟩]) ∨
        ∃ first rest, later = ⟨.openScroll index, .ok first⟩ :: rest ∧ Scrolled first rest := by
      rcases MigrationM.asks_bind goes with ⟨e, failed⟩ | ⟨first, k, known, rest, rfl, copied, returned⟩
      · exact documents_ask failed
      · rw [MigrationM.asks_pure returned, List.append_nil]
        exact documents_ask copied
    rcases documents with ⟨fault, rfl⟩ | ⟨first, rest, rfl, scrolled⟩
    · exact .unopened index index reply fault
    · exact .scrolled index index reply first rest scrolled

theorem indices_ask {names : List String} {result : Except MigrationError Summary}
    (asks : MigrationM.Asks (names.foldlM (copyIndex bound) n) before asked result after) :
    ∃ parts : List (List (Exchange Source)), asked = parts.flatten ∧ ∀ part ∈ parts, ForIndex part := by
  induction names generalizing n before asked with
  | nil => exact ⟨[], MigrationM.asks_pure asks, by simp⟩
  | cons index rest ih =>
      rw [List.foldlM_cons] at asks
      rcases MigrationM.asks_bind asks with ⟨e, failed⟩ | ⟨first, m, between, later, rfl, copied, goes⟩
      · exact ⟨[asked], by simp, by simpa using index_asks failed⟩
      · obtain ⟨parts, rfl, whole⟩ := ih goes
        exact ⟨first :: parts, rfl, by simpa using ⟨index_asks copied, whole⟩⟩

theorem run_asks {result : Except MigrationError Summary} (asks : MigrationM.Asks (run bound) before asked result after) :
    ∃ reply parts, asked = ⟨.indexNames, reply⟩ :: List.flatten parts ∧ ∀ part ∈ parts, ForIndex part := by
  rcases MigrationM.asks_bind asks with ⟨e, failed⟩ | ⟨call, names, between, later, rfl, called, copied⟩
  · obtain ⟨reply, rfl, _⟩ := MigrationM.asks_ask failed
    exact ⟨reply, [], rfl, by simp⟩
  · obtain ⟨reply, rfl, _⟩ := MigrationM.asks_ask called
    obtain ⟨parts, rfl, whole⟩ := indices_ask copied
    exact ⟨reply, parts, rfl, whole⟩

variable {closings pages part earlier later : List (Exchange Source)} {parts : List (List (Exchange Source))}
  {id : Option String} {index : String} {x : Exchange Source}

theorem closing_request (closed : closings.map Exchange.request = (id.map SourceRequest.closeScroll).toList)
    (member : x ∈ closings) : ∃ id, x.request = .closeScroll id := by
  have listed := List.mem_map_of_mem (f := Exchange.request) member
  rw [closed, Option.mem_toList] at listed
  obtain ⟨id, _, same⟩ := Option.map_eq_some_iff.mp listed
  exact ⟨id, same.symm⟩

theorem scrolled_calls (scrolled : Scrolled first later) (member : x ∈ later) :
    isForMappings x = false ∧ ∀ index, x.request ≠ .openScroll index := by
  obtain ⟨pages, closings, rfl, forPages, closed⟩ := scrolled
  obtain ⟨r, reply⟩ := x
  rcases List.mem_append.mp member with asked | closing
  · have forPage := forPages _ asked
    cases r <;> simp_all [isForPage, isForMappings]
  · obtain ⟨id, rfl⟩ := closing_request closed closing
    simp [isForMappings]

theorem opened_in_part (whole : ForIndex part) (opened : part = earlier ++ ⟨.openScroll index, .ok first⟩ :: later) :
    Scrolled first later := by
  cases whole with
  | unmapped => rcases earlier with _ | ⟨a, rest⟩ <;> simp at opened
  | unopened => rcases earlier with _ | ⟨a, _ | ⟨b, rest⟩⟩ <;> simp at opened
  | scrolled name other reply page calls scrolled =>
      rcases earlier with _ | ⟨a, _ | ⟨b, rest⟩⟩
      · simp at opened
      · simp only [List.cons_append, List.nil_append, List.cons.injEq, Exchange.mk.injEq, SourceRequest.openScroll.injEq] at opened
        obtain ⟨_, ⟨rfl, same⟩, rfl⟩ := opened
        cases same
        exact scrolled
      · simp only [List.cons_append, List.cons.injEq] at opened
        have member : (⟨.openScroll index, .ok first⟩ : Exchange Source) ∈ calls := by
          rw [opened.2.2]
          exact List.mem_append_right _ (List.mem_cons_self ..)
        exact absurd rfl ((scrolled_calls scrolled member).2 index)

theorem calls_of_parts (whole : ∀ part ∈ parts, ForIndex part) : callsForIndex parts.flatten = [] := by
  cases parts with
  | nil => rfl
  | cons part rest =>
      cases whole part (List.mem_cons_self ..) <;> rfl

theorem opened_in_run (whole : ∀ part ∈ parts, ForIndex part)
    (opened : parts.flatten = earlier ++ ⟨.openScroll index, .ok first⟩ :: later) :
    ∃ scroll rest, later = scroll ++ rest ∧ Scrolled first scroll ∧ callsForIndex rest = [] := by
  induction parts generalizing earlier with
  | nil => simp at opened
  | cons part parts ih =>
      have others : ∀ part ∈ parts, ForIndex part := fun p member => whole p (List.mem_cons_of_mem _ member)
      rw [List.flatten_cons, List.append_eq_append_iff] at opened
      obtain ⟨between, rfl, opened⟩ | ⟨within, here, opened⟩ := opened
      · exact ih others opened
      · cases within with
        | nil =>
            have here : parts.flatten = [] ++ ⟨.openScroll index, .ok first⟩ :: later := opened.symm
            exact ih others here
        | cons x scroll =>
            obtain ⟨rfl, rfl⟩ := List.cons.inj opened
            exact ⟨scroll, parts.flatten, rfl, opened_in_part (whole part (List.mem_cons_self ..)) here, calls_of_parts others⟩

theorem scroll_of_index (scrolled : Scrolled first later) (next : callsForIndex earlier = []) :
    callsForIndex (⟨.openScroll index, .ok first⟩ :: (later ++ earlier)) = ⟨.openScroll index, .ok first⟩ :: later := by
  have own : ∀ x ∈ (⟨.openScroll index, .ok first⟩ :: later : List (Exchange Source)), (!isForMappings x) = true := by
    intro x member
    rcases List.mem_cons.mp member with rfl | member
    · rfl
    · rw [(scrolled_calls scrolled member).1]
      rfl
  rw [← List.cons_append, callsForIndex, List.takeWhile_append_of_pos own]
  rw [callsForIndex] at next
  rw [next, List.append_nil]

theorem latest_of_last {calls : List (Exchange Source)} {id : String} (last : lastPageId calls = some id) :
    latestId calls = some id := by
  obtain ⟨page, final, carried⟩ := Option.bind_eq_some_iff.mp last
  obtain ⟨others, same⟩ := List.getLast?_eq_some_iff.mp final
  rw [latestId, same, List.filterMap_append, List.filterMap_cons_some carried, List.filterMap_nil, List.getLast?_concat]

-- A scroll ends with the release of what the last page carried, and nothing else is released.
structure EndsWithLastPage (calls : List (Exchange Source)) : Prop where
  split : ∃ asked closings, calls = asked ++ closings ∧ (∀ e ∈ asked, isClosing e = false) ∧
    closings.map Exchange.request = ((lastPageId calls).map SourceRequest.closeScroll).toList

theorem scrolled_ends (scrolled : Scrolled first later) :
    EndsWithLastPage (⟨.openScroll index, .ok first⟩ :: later) := by
  obtain ⟨pages, closings, rfl, forPages, closed⟩ := scrolled
  have silent : pagesOf closings = [] := by
    refine List.filterMap_eq_nil_iff.mpr fun x member => ?_
    obtain ⟨r, reply⟩ := x
    obtain ⟨id, rfl⟩ := closing_request closed member
    rfl
  have last : lastPageId (⟨.openScroll index, .ok first⟩ :: (pages ++ closings)) =
      ((pagesOf pages).getLastD first).scrollId := by
    have all : pagesOf (⟨.openScroll index, .ok first⟩ :: (pages ++ closings)) = first :: pagesOf pages := by
      have received : pagesOf (pages ++ closings) = pagesOf pages ++ pagesOf closings := List.filterMap_append ..
      rw [silent, List.append_nil] at received
      exact congrArg (first :: ·) received
    rw [lastPageId, all, List.getLast?_cons, Option.bind_some, List.getLastD_eq_getLast?]
  refine ⟨⟨.openScroll index, .ok first⟩ :: pages, closings, rfl, fun e member => ?_, by rw [last, closed]⟩
  rcases List.mem_cons.mp member with rfl | asked
  · rfl
  · obtain ⟨r, reply⟩ := e
    have forPage := forPages _ asked
    cases r <;> simp_all [isForPage, isClosing]

theorem released_iff {calls : List (Exchange Source)} (ends : EndsWithLastPage calls) :
    Released calls ↔ latestId calls = none ∨ (lastPageId calls).isSome := by
  obtain ⟨asked, closings, split, pending, closed⟩ := ends
  constructor
  · intro released
    cases latest : latestId calls with
    | none => exact Or.inl rfl
    | some id =>
        obtain ⟨before, reply, same, _⟩ := released id latest
        right
        by_contra unknown
        rw [Option.not_isSome_iff_eq_none.mp unknown] at closed
        have unclosed : closings = [] := List.map_eq_nil_iff.mp closed
        have member : (⟨.closeScroll id, reply⟩ : Exchange Source) ∈ asked := by
          rw [unclosed, List.append_nil] at split
          rw [← split, same]
          exact List.mem_append_right _ (List.mem_singleton_self _)
        exact Bool.noConfusion (pending _ member)
  · rintro (unknown | known) id latest
    · rw [unknown] at latest
      cases latest
    · obtain ⟨last, carried⟩ := Option.isSome_iff_exists.mp known
      obtain rfl : last = id := Option.some.inj ((latest_of_last carried).symm.trans latest)
      rw [carried] at closed
      obtain ⟨closing, rfl, request⟩ := List.map_eq_singleton_iff.mp closed
      obtain ⟨r, reply⟩ := closing
      cases request
      exact ⟨asked, reply, split, pending⟩

/-- Once a scroll is open, the id of the page received last is released, at the end and once. That is the
latest id received, unless the last page carried none and an earlier one did. -/
theorem scroll_released_iff_last_page_has_id (bound : Nat) (known : KnownRelations) (calls : List (Exchange Parties))
    (result : Except MigrationError Summary × KnownRelations) (before after : List (Exchange Source)) (index : String)
    (first : ScrollPage) (passed : Dialogue.Passes (run bound known) calls result)
    (opened : calls.filterMap ofSource = before ++ ⟨.openScroll index, .ok first⟩ :: after) :
    EndsWithLastPage (callsForIndex (⟨.openScroll index, .ok first⟩ :: after)) ∧
      (Released (callsForIndex (⟨.openScroll index, .ok first⟩ :: after)) ↔
        latestId (callsForIndex (⟨.openScroll index, .ok first⟩ :: after)) = none ∨
          (lastPageId (callsForIndex (⟨.openScroll index, .ok first⟩ :: after))).isSome) := by
  obtain ⟨reply, parts, asked, whole⟩ := run_asks ⟨calls, passed, opened⟩
  cases before with
  | nil => simp at asked
  | cons listing before =>
      obtain ⟨later, rest, rfl, scrolled, next⟩ := opened_in_run whole (List.cons.inj asked).2.symm
      rw [scroll_of_index scrolled next]
      exact ⟨scrolled_ends scrolled, released_iff (scrolled_ends scrolled)⟩

def onePage : ScrollPage := ⟨some "x", 1, [⟨"a", "t", "1", .object []⟩]⟩

def onePageThen (id : Option String) : Script where
  indices := .ok ["a"]
  mappings := []
  scrolls := [("a", [.ok onePage, .ok ⟨id, 1, []⟩])]
  close := .ok ()

def callsOf (script : Script) : List (Exchange Parties) :=
  Dialogue.exchanged (answerBoth ScriptedSource.answer Memory.answer) (run 1 .empty) (.start script, .empty)

theorem scroll_of_empty_page_released :
    ∃ before after, (callsOf (onePageThen (some "y"))).filterMap ofSource = before ++ ⟨.openScroll "a", .ok onePage⟩ :: after ∧
      latestId (callsForIndex (⟨.openScroll "a", .ok onePage⟩ :: after)) = some "y" ∧
      Released (callsForIndex (⟨.openScroll "a", .ok onePage⟩ :: after)) := by
  have passed := Dialogue.exchanged_passes (answerBoth ScriptedSource.answer Memory.answer) (run 1 .empty)
    (.start (onePageThen (some "y")), .empty)
  have opened : (callsOf (onePageThen (some "y"))).filterMap ofSource =
      [⟨.indexNames, .ok ["a"]⟩, ⟨.typeMappings "a", .ok []⟩] ++
        ⟨.openScroll "a", .ok onePage⟩ :: [⟨.nextPage "x", .ok ⟨some "y", 1, []⟩⟩, ⟨.closeScroll "y", .ok ()⟩] := rfl
  have ended := scroll_released_iff_last_page_has_id 1 .empty _ _ _ _ "a" onePage passed opened
  exact ⟨_, _, opened, rfl, ended.2.mpr (Or.inr rfl)⟩

theorem scroll_of_unscrolled_page_kept :
    ∃ before after, (callsOf (onePageThen none)).filterMap ofSource = before ++ ⟨.openScroll "a", .ok onePage⟩ :: after ∧
      latestId (callsForIndex (⟨.openScroll "a", .ok onePage⟩ :: after)) = some "x" ∧
      ¬ Released (callsForIndex (⟨.openScroll "a", .ok onePage⟩ :: after)) := by
  have opened : (callsOf (onePageThen none)).filterMap ofSource =
      [⟨.indexNames, .ok ["a"]⟩, ⟨.typeMappings "a", .ok []⟩] ++
        ⟨.openScroll "a", .ok onePage⟩ :: [⟨.nextPage "x", .ok ⟨none, 1, []⟩⟩] := rfl
  refine ⟨_, _, opened, rfl, fun released => ?_⟩
  obtain ⟨before, reply, calls, _⟩ := released "x" rfl
  have last := congrArg List.getLast? calls
  rw [List.getLast?_concat] at last
  cases last

end Migration

end SearchStore

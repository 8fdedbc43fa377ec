import SearchStore.Proofs.Migration.Accounting
import SearchStore.Proofs.Migration.Replay

/-!
Migrations that are done again after they have been broken off. A source that fails some calls and
otherwise follows its script lets through a first part of what the script brings; with this already
there, a complete run leaves what it would have left without it.
-/

set_option autoImplicit false

namespace SearchStore.Migration

open Store (State Reachable)
open Store.State

section

variable {σ : Type} {answer broken : (r : Source.Request) → StateM σ (Source.Reply r)}

namespace Outline

def Cut (part whole : Outline σ) : Prop := part = whole ∨ part.halt.isSome ∧ part.transfers <+: whole.transfers

variable {part whole : Outline σ} {next rest : σ → Outline σ}

theorem cut_prefix (cut : Cut part whole) : part.transfers <+: whole.transfers := by
  rcases cut with rfl | ⟨_, shorter⟩
  · exact List.prefix_rfl
  · exact shorter

theorem prefix_then (o : Outline σ) (next : σ → Outline σ) : o.transfers <+: (o.andThen next).transfers := by
  rw [andThen]
  cases o.halt with
  | some e => exact List.prefix_rfl
  | none => exact List.prefix_append _ _

theorem cut_then (first : Cut part whole) (later : ∀ source, Cut (next source) (rest source)) :
    Cut (part.andThen next) (whole.andThen rest) := by
  rcases first with rfl | ⟨halted, shorter⟩
  · cases going : part.halt with
    | some e => exact Or.inl (by rw [then_halted going, then_halted going])
    | none =>
        rw [then_going going, then_going going]
        rcases later part.source with same | ⟨halted, shorter⟩
        · exact Or.inl (by rw [same])
        · exact Or.inr ⟨halted, (List.prefix_append_right_inj _).mpr shorter⟩
  · obtain ⟨e, halt⟩ := Option.isSome_iff_exists.mp halted
    rw [then_halted halt]
    exact Or.inr ⟨halted, shorter.trans (prefix_then whole rest)⟩

end Outline

structure Falters (broken answer : (r : Source.Request) → StateM σ (Source.Reply r)) : Prop where
  replies : ∀ (r : SourceRequest) source, (broken r).run source = (answer r).run source ∨
    ∃ fault after, (broken r).run source = (.error fault, after)
  releases : ∀ id source, ((broken (.closeScroll id)).run source).2 = ((answer (.closeScroll id)).run source).2

section

variable (falters : Falters broken answer)
include falters

theorem cut_ask {r : SourceRequest} {next rest : r.Answer → σ → Outline σ}
    (later : ∀ a source, (next a source).Cut (rest a source)) (source : σ) :
    (outlineAsk broken r next source).Cut (outlineAsk answer r rest source) := by
  rw [outlineAsk, outlineAsk]
  rcases falters.replies r source with same | ⟨fault, after, failed⟩
  · rw [same]
    generalize (answer r).run source = replied
    obtain ⟨reply, after⟩ := replied
    cases reply with
    | error fault => exact Or.inl rfl
    | ok a => exact later a after
  · rw [failed]
    exact Or.inr ⟨rfl, List.nil_prefix⟩

theorem released_alike (source : σ) (id : Option String) : released broken source id = released answer source id := by
  cases id with
  | none => rfl
  | some id => exact falters.releases id source

theorem cut_pages (bound : Nat) (page : ScrollPage) (source : σ) :
    outlinePages broken bound page source = outlinePages answer bound page source ∨
      (outlinePages broken bound page source).2.halt.isSome ∧
        (outlinePages broken bound page source).2.transfers <+:
          (outlinePages answer bound page source).2.transfers := by
  fun_induction outlinePages answer bound page source with
  | case1 bound page source last =>
      left
      rw [outlinePages.eq_def]
      simp only [if_pos last]
  | case2 bound page source filled unscrolled =>
      left
      rw [outlinePages.eq_def]
      simp only [if_neg filled, unscrolled]
  | case3 page source filled id scrolled =>
      left
      rw [outlinePages.eq_def]
      simp only [if_neg filled, scrolled]
  | case4 page source filled id bound scrolled next after replied ih =>
      rw [outlinePages.eq_def]
      simp only [if_neg filled, scrolled]
      rcases falters.replies (.nextPage id) source with same | ⟨fault, failed, broke⟩
      · simp only [same, replied]
        rcases ih with equal | ⟨halted, shorter⟩
        · exact Or.inl (by rw [equal])
        · exact Or.inr ⟨halted, (List.prefix_append_right_inj _).mpr shorter⟩
      · simp only [broke]
        refine Or.inr ⟨rfl, ?_⟩
        exact (List.prefix_append_right_inj _).mpr List.nil_prefix
  | case5 page source filled id bound scrolled fault after replied =>
      rw [outlinePages.eq_def]
      simp only [if_neg filled, scrolled]
      rcases falters.replies (.nextPage id) source with same | ⟨fault, failed, broke⟩
      · left
        simp only [same, replied]
      · simp only [broke]
        exact Or.inr ⟨rfl, List.prefix_rfl⟩

theorem cut_documents (bound : Nat) (index : String) (source : σ) :
    (outlineDocuments broken bound index source).Cut (outlineDocuments answer bound index source) := by
  refine cut_ask falters (fun page source => ?_) source
  rcases cut_pages falters bound page source with same | ⟨halted, shorter⟩
  · exact Or.inl (by simp only [same, released_alike falters])
  · exact Or.inr ⟨halted, shorter⟩

theorem cut_index (bound : Nat) (index : String) (source : σ) :
    (outlineIndex broken bound index source).Cut (outlineIndex answer bound index source) := by
  have mappings : (outlineMappings broken index source).Cut (outlineMappings answer index source) :=
    cut_ask falters (fun _ _ => Or.inl rfl) source
  exact Outline.cut_then (Outline.cut_then mappings (cut_documents falters bound index)) fun _ => Or.inl rfl

theorem cut_indices (bound : Nat) (names : List String) (source : σ) :
    (outlineIndices broken bound names source).Cut (outlineIndices answer bound names source) := by
  induction names generalizing source with
  | nil => exact Or.inl rfl
  | cons index rest ih => exact Outline.cut_then (cut_index falters bound index source) ih

theorem cut_outline (bound : Nat) (source : σ) : (outline broken bound source).Cut (outline answer bound source) :=
  cut_ask falters (cut_indices falters bound) source

end

end

def ScrollPage.Named (page : ScrollPage) : Prop := ∀ hit ∈ page.hits, hit.id ≠ ""

def Script.Named (script : Script) : Prop :=
  ∀ e ∈ script.scrolls, ∀ page : ScrollPage, Except.ok page ∈ e.2 → page.Named

namespace ScriptedSource

structure Named (source : ScriptedSource) : Prop where
  script : source.script.Named
  coming : ∀ page : ScrollPage, Except.ok page ∈ source.pages → page.Named

theorem take_page_named {pages : List (Except SourceFault ScrollPage)}
    (named : ∀ page : ScrollPage, Except.ok page ∈ pages → page.Named) :
    (∀ page, (takePage pages).1 = .ok page → page.Named) ∧
      ∀ page, Except.ok page ∈ (takePage pages).2 → page.Named := by
  cases pages with
  | nil =>
      refine ⟨fun page taken => ?_, by simp [takePage]⟩
      cases taken
      simp [ScrollPage.Named, ScrollPage.empty]
  | cons reply rest =>
      refine ⟨fun page taken => ?_, fun page later => named page (List.mem_cons_of_mem _ later)⟩
      obtain rfl : reply = .ok page := taken
      exact named page List.mem_cons_self

variable {source after : ScriptedSource}

theorem pages_of_named {script : Script} (named : script.Named) (index : String) :
    ∀ page : ScrollPage, Except.ok page ∈ script.pagesOf index → page.Named := by
  rw [Script.pagesOf]
  cases found : Keyed.find? script.scrolls index with
  | none => simp
  | some pages => exact named _ (Keyed.mem_of_find found)

theorem answer_named (named : source.Named) (r : SourceRequest) : ((answer r).run source).2.Named := by
  cases r with
  | indexNames | typeMappings | closeScroll => exact ⟨named.script, named.coming⟩
  | openScroll index => exact ⟨named.script, (take_page_named (pages_of_named named.script index)).2⟩
  | nextPage id => exact ⟨named.script, (take_page_named named.coming).2⟩

theorem opened_named (named : source.Named) {index : String} {page : ScrollPage}
    (opened : (answer (.openScroll index)).run source = (.ok page, after)) : page.Named :=
  (take_page_named (pages_of_named named.script index)).1 page (congrArg Prod.fst opened)

theorem next_named (named : source.Named) {id : String} {page : ScrollPage}
    (turned : (answer (.nextPage id)).run source = (.ok page, after)) : page.Named :=
  (take_page_named named.coming).1 page (congrArg Prod.fst turned)

end ScriptedSource

structure Outline.Named (o : Outline ScriptedSource) : Prop where
  source : o.source.Named
  transfers : ∀ t ∈ o.transfers, t.Named

section

open ScriptedSource (answer_named opened_named next_named)

variable {source : ScriptedSource} {o : Outline ScriptedSource}

theorem ask_named (named : source.Named) {r : SourceRequest} {next : r.Answer → ScriptedSource → Outline ScriptedSource}
    (goes : ∀ a after, (ScriptedSource.answer r).run source = (.ok a, after) → after.Named → (next a after).Named) :
    (outlineAsk ScriptedSource.answer r next source).Named := by
  have kept := answer_named named r
  rw [outlineAsk]
  cases replied : (ScriptedSource.answer r).run source with
  | mk reply after =>
      rw [replied] at kept
      cases reply with
      | ok a => exact goes a after replied kept
      | error fault => exact ⟨kept, by simp [Outline.halted]⟩

theorem then_named (first : o.Named) {next : ScriptedSource → Outline ScriptedSource}
    (goes : ∀ source, source.Named → (next source).Named) : (o.andThen next).Named := by
  cases going : o.halt with
  | some e => rwa [then_halted going]
  | none =>
      rw [then_going going]
      have later := goes o.source first.source
      exact ⟨later.source, List.forall_mem_append.mpr ⟨first.transfers, later.transfers⟩⟩

theorem hits_named {page : ScrollPage} (filled : page.Named) (named : source.Named) :
    (outlineHits page source).Named := by
  refine ⟨named, fun t member => ?_⟩
  obtain ⟨hit, inside, rfl⟩ := List.mem_map.mp member
  exact filled hit inside

theorem halted_named (e : MigrationError) (named : source.Named) : (Outline.halted e source).Named :=
  ⟨named, by simp [Outline.halted]⟩

theorem pages_named (bound : Nat) {page : ScrollPage} (filled : page.Named) (named : source.Named) :
    (outlinePages ScriptedSource.answer bound page source).2.Named := by
  fun_induction outlinePages with
  | case1 bound page source last => exact ⟨named, by simp [Outline.nothing]⟩
  | case2 bound page source => exact hits_named filled named
  | case3 page source => exact then_named (hits_named filled named) fun _ => halted_named _
  | case4 page source _ id bound scrolled next after replied ih =>
      have kept := answer_named named (.nextPage id)
      rw [replied] at kept
      exact then_named (hits_named filled kept) fun _ _ => ih (next_named named replied) kept
  | case5 page source _ id bound scrolled fault after replied =>
      have kept := answer_named named (.nextPage id)
      rw [replied] at kept
      exact then_named (hits_named filled kept) fun _ => halted_named _

theorem documents_named (bound : Nat) (index : String) (source : ScriptedSource) (named : source.Named) :
    (outlineDocuments ScriptedSource.answer bound index source).Named := by
  refine ask_named named fun page after opened kept => ?_
  have pages := pages_named bound (opened_named named opened) kept
  refine ⟨?_, pages.transfers⟩
  dsimp only
  cases (outlinePages ScriptedSource.answer bound page after).1 with
  | none => exact pages.source
  | some id => exact answer_named pages.source (.closeScroll id)

theorem index_named (bound : Nat) (index : String) (source : ScriptedSource) (named : source.Named) :
    (outlineIndex ScriptedSource.answer bound index source).Named := by
  have mappings : (outlineMappings ScriptedSource.answer index source).Named := by
    refine ask_named named fun reported after _ kept => ⟨kept, fun t member => ?_⟩
    obtain ⟨m, -, rfl⟩ := List.mem_map.mp member
    trivial
  have finished (source : ScriptedSource) (named : source.Named) :
      (⟨[.finished index], none, source⟩ : Outline _).Named := ⟨named, by simp [Transfer.Named]⟩
  exact then_named (then_named mappings (documents_named bound index)) finished

theorem indices_named (bound : Nat) (names : List String) (source : ScriptedSource) (named : source.Named) :
    (outlineIndices ScriptedSource.answer bound names source).Named := by
  induction names generalizing source with
  | nil => exact ⟨named, by simp [outlineIndices, Outline.nothing]⟩
  | cons index rest ih => exact then_named (index_named bound index source named) ih

theorem outline_named (bound : Nat) (named : source.Named) : (outline ScriptedSource.answer bound source).Named :=
  ask_named named fun names _ _ => indices_named bound names _

end

-- A source that follows its script, but fails a call where it is told to from the calls up to it.
def interrupted (fails : List SourceRequest → Option SourceFault) (r : Source.Request) :
    StateM ScriptedSource (Source.Reply r) := fun source =>
  match fails (source.calls ++ [r]) with
  | some fault => (.error fault, { source with calls := source.calls ++ [r] })
  | none => ScriptedSource.answer r source

theorem interrupted_falters (fails : List SourceRequest → Option SourceFault) :
    Falters (interrupted fails) ScriptedSource.answer := by
  have either (r : SourceRequest) (source : ScriptedSource) :
      (interrupted fails r).run source = (ScriptedSource.answer r).run source ∨
        ∃ fault, (interrupted fails r).run source = (.error fault, { source with calls := source.calls ++ [r] }) := by
    have run : (interrupted fails r).run source = interrupted fails r source := rfl
    rw [run, interrupted]
    cases fails (source.calls ++ [r]) with
    | none => exact Or.inl rfl
    | some fault => exact Or.inr ⟨fault, rfl⟩
  constructor
  · intro r source
    exact (either r source).imp_right fun ⟨fault, failed⟩ => ⟨fault, _, failed⟩
  · intro id source
    rcases either (.closeScroll id) source with same | ⟨fault, failed⟩
    · rw [same]
    · rw [failed]
      rfl

variable {s left done : State} {script : Script} {bound : Nat} {n m : Summary} {source : ScriptedSource}
  {first later : List Transfer}

theorem gained_by (reachable : Reachable s) (transfers : List Transfer) :
    (carryAll transfers .zero s).2.memory.size = s.memory.size + (carryAll transfers .zero s).1.documents :=
  size_carry_all reachable transfers .zero

theorem memory_again (reachable : Reachable s) (ready : Ready (first ++ later)) :
    (carryAll (first ++ later) .zero (carryAll first .zero s).2).2.memory =
      (carryAll (first ++ later) .zero s).2.memory := by
  simp only [carry_all_state]
  exact carried_again reachable ready

theorem documents_again (reachable : Reachable s) (ready : Ready (first ++ later)) :
    (carryAll first .zero s).1.documents +
        (carryAll (first ++ later) .zero (carryAll first .zero s).2).1.documents =
      (carryAll (first ++ later) .zero s).1.documents := by
  have before := gained_by reachable first
  have since := gained_by (carry_all_reachable first .zero reachable) (first ++ later)
  have whole := gained_by reachable (first ++ later)
  rw [memory_again reachable ready] at since
  omega

-- What two runs of a script come to beside one: it leaves s as done and sums up to n. The first of the two
-- ends with an outcome and leaves what is left, the second sums up to m and leaves the state after.
structure Resumed (s done : State) (n : Summary) (outcome : Except MigrationError Summary) (left : State) (m : Summary)
    (after : State) : Prop where
  memory : after.memory = done.memory
  -- A run that is broken off has no summary. Its documents are those the store has gained.
  documents : ∃ gained, left.memory.size = s.memory.size + gained ∧ gained + m.documents = n.documents
  completed : ∀ k, outcome = .ok k → k = n ∧ left.memory = done.memory ∧ m.documents = 0

/-- A migration that is broken off wherever its source fails, and then run again, comes to what one run comes to. -/
theorem interrupted_migration_resumes (reachable : Reachable s) (named : script.Named)
    (completes : runInMemory ScriptedSource.answer bound (.start script) s = (.ok n, source, done))
    (fails : List SourceRequest → Option SourceFault) :
    ∃ outcome broke left m again after,
      runInMemory (interrupted fails) bound (.start script) s = (outcome, broke, left) ∧
      runInMemory ScriptedSource.answer bound (.start script) left = (.ok m, again, after) ∧
      Resumed s done n outcome left m after := by
  obtain ⟨fits, unhalted, -, carried⟩ := run_completed reachable completes
  have cut := cut_outline (interrupted_falters fails) bound (.start script)
  have start : (ScriptedSource.start script).Named := ⟨named, by simp [ScriptedSource.start]⟩
  have ids := (outline_named bound start).transfers
  generalize whole : outline ScriptedSource.answer bound (.start script) = o at fits unhalted carried cut ids
  generalize part : outline (interrupted fails) bound (.start script) = p at cut
  obtain ⟨later, joined⟩ := Outline.cut_prefix cut
  rw [← joined] at fits ids carried
  have ready : Ready (p.transfers ++ later) := fun t member => ⟨fits t member, ids t member⟩
  have memory := memory_again reachable ready
  have documents := documents_again reachable ready
  rw [carried] at memory documents
  have first : runInMemory (interrupted fails) bound (.start script) s = _ :=
    run_fitting reachable (by rw [part]; exact fun t member => fits t (List.mem_append_left _ member))
  have second : runInMemory ScriptedSource.answer bound (.start script) (carryAll p.transfers .zero s).2 = _ :=
    run_fitting (carry_all_reachable p.transfers .zero reachable) (by rwa [whole, ← joined])
  rw [part] at first
  rw [whole, ← joined, Outline.result, unhalted] at second
  refine ⟨_, _, _, _, _, _, first, second, memory, ⟨_, gained_by reachable p.transfers, documents⟩, ?_⟩
  intro k ended
  rcases cut with rfl | ⟨halted, -⟩
  · obtain rfl : later = [] := List.append_right_eq_self.mp joined
    rw [Outline.result, unhalted] at ended
    rw [List.append_nil] at carried
    rw [carried] at ended documents ⊢
    cases ended
    exact ⟨rfl, rfl, by simpa using documents⟩
  · obtain ⟨e, halt⟩ := Option.isSome_iff_exists.mp halted
    rw [Outline.result, halt] at ended
    cases ended

def losesSecondPage (calls : List SourceRequest) : Option SourceFault :=
  if calls.getLast? = some (.nextPage "x") then some .connection else none

theorem two_pages_named : twoPages.Named := by
  intro e member page reply
  obtain rfl := List.mem_singleton.mp member
  simp only [List.mem_cons, Except.ok.injEq, List.not_mem_nil, or_false] at reply
  rcases reply with rfl | rfl <;> simp [ScrollPage.Named]

theorem lost_page_resumed : Reachable .fresh ∧ twoPages.Named ∧
    ∃ source done, runInMemory ScriptedSource.answer 2 (.start twoPages) .fresh = (.ok ⟨1, 1, 2, 1⟩, source, done) ∧
    ∃ broke left m again after,
      runInMemory (interrupted losesSecondPage) 2 (.start twoPages) .fresh = (.error (.source .connection), broke, left) ∧
      runInMemory ScriptedSource.answer 2 (.start twoPages) left = (.ok m, again, after) ∧
      Resumed .fresh done ⟨1, 1, 2, 1⟩ (.error (.source .connection)) left m after := by
  have reachable : Reachable .fresh := ⟨[], rfl⟩
  have completes : runInMemory ScriptedSource.answer 2 (.start twoPages) .fresh = (.ok ⟨1, 1, 2, 1⟩, _, _) := rfl
  obtain ⟨outcome, broke, left, m, again, after, first, second, resumes⟩ :=
    interrupted_migration_resumes reachable two_pages_named completes losesSecondPage
  have fails : (runInMemory (interrupted losesSecondPage) 2 (.start twoPages) .fresh).1 =
      .error (.source .connection) := rfl
  rw [first] at fails
  obtain rfl : outcome = _ := fails
  exact ⟨reachable, two_pages_named, _, _, completes, broke, left, m, again, after, first, second, resumes⟩

end SearchStore.Migration

import SearchStore.Proofs.Query.Meaning
import SearchStore.Proofs.Query.Refusals
import SearchStore.Proofs.Store.Runs
import SearchStore.Proofs.Text.Wildcards
import SearchStore.Search.Hits

/-!
What a search in memory answers: one page of the documents that satisfy the query, of all types the
patterns match, in order of index and type and then of their coming. A search reads only, so each of
its parts sees the memory as it was at first.
-/

set_option autoImplicit false

namespace SearchStore

namespace Relation

def Before (p q : Relation) : Prop :=
  Text.before p.index q.index = true ∨ p.index = q.index ∧ Text.before p.type q.type = true

end Relation

namespace Store.State

variable {s : State}

-- The catalogued pairs that two patterns match, index by index and type by type.
def pairs (s : State) (indexPattern typePattern : String) : List Relation :=
  ((Keyed.keys s.memory.indices).filter (Pattern.ofWildcard indexPattern).accepts).flatMap fun index =>
    ((Keyed.keys (s.memory.typesOf index)).filter (Pattern.ofWildcard typePattern).accepts).map (Relation.mk index)

theorem mem_pairs (sound : s.Sound) {indexPattern typePattern : String} {r : Relation} :
    r ∈ s.pairs indexPattern typePattern ↔ (s.memory.typeOf? r).isSome ∧
      Pattern.Wildcard indexPattern.toList r.index.toList ∧ Pattern.Wildcard typePattern.toList r.type.toList := by
  have ofIndex (index : String) := Memory.types_of_ordered index sound.typesOrdered
  simp only [pairs, List.mem_flatMap, List.mem_map, List.mem_filter, Keyed.mem_keys sound.indicesOrdered,
    Keyed.mem_keys (ofIndex _), Memory.types_of_find, Pattern.wildcard_accepts_iff]
  constructor
  · rintro ⟨index, ⟨-, left⟩, type, ⟨typed, right⟩, rfl⟩
    exact ⟨typed, left, right⟩
  · rintro ⟨typed, left, right⟩
    exact ⟨r.index, ⟨sound.indexed r typed, left⟩, r.type, ⟨typed, right⟩, rfl⟩

theorem pairs_in_order (sound : s.Sound) (indexPattern typePattern : String) :
    (s.pairs indexPattern typePattern).Pairwise Relation.Before := by
  rw [pairs, List.pairwise_flatMap]
  constructor
  · intro index _
    rw [List.pairwise_map]
    have ordered := Keyed.keys_ordered (Memory.types_of_ordered index sound.typesOrdered)
    exact (ordered.filter _).imp fun less => Or.inr ⟨rfl, less⟩
  · refine ((Keyed.keys_ordered sound.indicesOrdered).filter _).imp ?_
    intro i j less p left q right
    obtain ⟨_, _, rfl⟩ := List.mem_map.mp left
    obtain ⟨_, _, rfl⟩ := List.mem_map.mp right
    exact Or.inl less

end Store.State

namespace StoreM

open Store (State)

variable {α β : Type} {m : Memory}

def Reads (m : Memory) (op : StoreM α) (result : Except Failure α) : Prop :=
  ∀ known, State.Sound ⟨m, known⟩ → ∃ known', op.inMemory ⟨m, known⟩ = (result, ⟨m, known'⟩) ∧ State.Sound ⟨m, known'⟩

theorem reads_pure (a : α) : Reads m (pure a) (.ok a) := fun known sound => ⟨known, rfl, sound⟩

theorem reads_throw (e : Failure) : Reads m (throw e : StoreM α) (.error e) := fun known sound => ⟨known, rfl, sound⟩

theorem reads_lift (result : Except Failure α) : Reads m (liftM result) result :=
  fun known sound => ⟨known, lift_in_memory result _, sound⟩

theorem reads_bind {op : StoreM α} {f : α → StoreM β} {result : Except Failure α} {next : α → Except Failure β}
    (first : Reads m op result) (rest : ∀ a, Reads m (f a) (next a)) : Reads m (op >>= f) (result >>= next) := by
  intro known sound
  obtain ⟨between, answered, sound⟩ := first known sound
  rw [bind_in_memory, answered]
  cases result with
  | error e => exact ⟨between, rfl, sound⟩
  | ok a => exact rest a between sound

theorem reads_then {op : StoreM α} {f : α → StoreM β} {a : α} {result : Except Failure β}
    (first : Reads m op (.ok a)) (rest : Reads m (f a) result) : Reads m (op >>= f) result := by
  intro known sound
  obtain ⟨between, answered, sound⟩ := first known sound
  rw [bind_in_memory, answered]
  exact rest between sound

theorem reads_each {f : α → StoreM β} {g : α → Except Failure β} (each : ∀ a, Reads m (f a) (g a)) (items : List α) :
    Reads m (items.mapM f) (items.mapM g) := by
  induction items with
  | nil => exact reads_pure []
  | cons item rest ih =>
      rw [List.mapM_cons, List.mapM_cons]
      refine reads_bind (each item) fun b => ?_
      exact reads_bind ih fun later => reads_pure (b :: later)

theorem reads_ask {r : StorageRequest} (same : (m.serve r).2 = m) : Reads m (ask r) (.ok (m.serve r).1) := by
  intro known sound
  rw [ask_in_memory, same]
  exact ⟨known, rfl, sound⟩

end StoreM

namespace Search

open Store (State)
open Store.State StoreM

variable {m : Memory} {s : State}

theorem reads_indices (m : Memory) (pattern : String) : Reads m (Store.findIndices pattern)
    (.ok ((Keyed.keys m.indices).filter (Pattern.ofWildcard pattern).accepts)) :=
  reads_ask (r := .listIndices (.ofWildcard pattern)) rfl

theorem reads_types (m : Memory) (index pattern : String) : Reads m (Store.findTypes index pattern)
    (.ok ((Keyed.keys (m.typesOf index)).filter (Pattern.ofWildcard pattern).accepts)) := by
  rw [← Memory.listed_types]
  exact reads_ask (r := .listTypes index (.ofWildcard pattern)) rfl

def mappingOf (m : Memory) (r : Relation) : Mapping := .ofOptions r.type (((m.typeOf? r).map (·.options)).getD "")

def predicateOf (request : SearchRequest) (mapping : Mapping) : Except Failure Predicate :=
  match request.query with
  | none => .ok .matchAll
  | some query => Query.compileJson query mapping

theorem reads_predicate (request : SearchRequest) (m : Memory) (r : Relation) :
    Reads m (predicateFor request r.index r.type) (predicateOf request (mappingOf m r)) := by
  rw [predicateFor, predicateOf]
  cases request.query with
  | none => exact reads_pure _
  | some query => exact reads_bind (reads_ask (r := .fetchType r.index r.type) rfl) fun _ => reads_lift _

-- The singles 1.0 and 0.0.
def unitScore : Numeric.Rounded := .finite ⟨false, 8388608, -23⟩

def noScore : Numeric.Rounded := .finite ⟨false, 0, -149⟩

-- A document of a pair as a hit: it names the pair, and has the id and the source of the document.
def hitOf (r : Relation) (d : Document) : Hit where
  index := r.index
  type := r.type
  id := d.id
  score := unitScore
  source := d.source

theorem constant_score_unit : Hit.constantScore = unitScore := by decide

theorem hit_of_document (r : Relation) : Hit.ofDocument r.index r.type = hitOf r := by
  funext d
  rw [Hit.ofDocument, constant_score_unit]
  rfl

def hitsWhere (wanted : Json → Bool) (s : State) (r : Relation) : List Hit :=
  ((s.rows r).filter fun d => wanted d.source).map (hitOf r)

def pairHits (request : SearchRequest) (s : State) (r : Relation) : Except Failure (List Hit) := do
  let predicate ← predicateOf request (mappingOf s.memory r)
  return hitsWhere predicate.matchesSource s r

theorem reads_hits (request : SearchRequest) (s : State) (r : Relation) :
    Reads s.memory (hitsOf request r.index r.type) (pairHits request s r) := by
  refine reads_bind (reads_predicate request s.memory r) fun predicate => ?_
  rw [hit_of_document]
  refine reads_then ?_ (reads_pure _)
  intro known sound
  have kept : ∃ known', State.touch ⟨s.memory, known⟩ r = ⟨s.memory, known'⟩ :=
    ⟨_, congrArg (State.mk · _) (touch_memory _ r)⟩
  obtain ⟨known', touched⟩ := kept
  rw [select_in_memory sound, touched]
  exact ⟨known', rfl, touched ▸ sound_touch sound r⟩

theorem gathered (types : String → List String) (f : Relation → Except Failure (List Hit)) (indices : List String) :
    (do return (← indices.mapM fun i => (types i).mapM fun t => f ⟨i, t⟩).flatten) =
      (indices.flatMap fun i => (types i).map (Relation.mk i)).mapM f := by
  induction indices with
  | nil => rfl
  | cons i rest ih =>
      rw [List.flatMap_cons, List.mapM_append, ← ih, List.mapM_cons, List.mapM_map]
      simp only [bind_assoc, pure_bind, List.flatten_cons]
      rfl

def pageOf (request : SearchRequest) (hits : List (List Hit)) : Except Failure SearchEnvelope :=
  if hits.isEmpty then .error (.illegalOperation .nothingToSearch)
  else .ok (.page hits.flatten request.offset request.limit 0)

theorem reads_run (indexPattern typePattern : String) (request : SearchRequest) (s : State) :
    Reads s.memory (run indexPattern typePattern request)
      ((s.pairs indexPattern typePattern).mapM (pairHits request s) >>= pageOf request) := by
  rw [State.pairs, ← gathered, bind_assoc]
  refine reads_then (reads_indices s.memory indexPattern) ?_
  refine reads_bind (reads_each (fun index => ?_) _) fun hits => ?_
  · exact reads_then (reads_types s.memory index typePattern) (reads_each (fun type => reads_hits request s ⟨index, type⟩) _)
  · rw [pure_bind, pageOf]
    by_cases nothing : hits.flatten.isEmpty = true
    · simp only [if_pos nothing]
      exact reads_bind (reads_throw _) fun _ => reads_pure _
    · simp only [if_neg nothing]
      exact reads_pure _

-- What the query asks of a document; without a query nothing is asked.
def Satisfies (request : SearchRequest) (source : Json) : Prop :=
  ∀ query ∈ request.query, ∃ q, Query.ofJson? query = some q ∧ q.Holds source

-- What a search of these pairs may answer: that there are none, that the query is malformed, or a page of the hits.
inductive Answers (s : State) (pairs : List Relation) (request : SearchRequest) : Except Failure SearchEnvelope → Prop where
  | nothing (absent : pairs = []) : Answers s pairs request (.error (.illegalOperation .nothingToSearch))
  | refused (present : pairs ≠ []) (query : Json) (asked : request.query = some query) (cause : Malformed)
      (malformed : ∀ mapping, Query.compileJson query mapping = .error (.malformedInput cause)) :
      Answers s pairs request (.error (.malformedInput cause))
  | page (present : pairs ≠ [])
      (accepted : ∀ query ∈ request.query, ∀ mapping, ∃ p, Query.compileJson query mapping = .ok p)
      (wanted : Json → Bool) (exact : ∀ source, wanted source = true ↔ Satisfies request source)
      (answer : SearchEnvelope) (total : answer.hits.total = (pairs.flatMap (hitsWhere wanted s)).length)
      (shown : answer.hits.hits =
        ((pairs.flatMap (hitsWhere wanted s)).drop (request.start.getD 0)).take (min (request.size.getD 10) 10000))
      (score : answer.hits.maxScore = if answer.hits.hits = [] then noScore else unitScore) :
      Answers s pairs request (.ok answer)

theorem max_score {hits : List Hit} (alike : ∀ hit ∈ hits, hit.score = unitScore) :
    (hits.map (·.score)).foldl greaterScore zeroScore = if hits = [] then noScore else unitScore := by
  cases hits with
  | nil => rfl
  | cons first rest =>
      obtain ⟨here, later⟩ := List.forall_mem_cons.mp alike
      rw [List.map_cons, List.foldl_cons, here, if_neg (List.cons_ne_nil first rest)]
      have first : greaterScore zeroScore unitScore = unitScore := by decide
      have again : greaterScore unitScore unitScore = unitScore := by decide
      rw [first]
      clear here alike
      induction rest with
      | nil => rfl
      | cons next rest ih =>
          obtain ⟨here, later⟩ := List.forall_mem_cons.mp later
          rw [List.map_cons, List.foldl_cons, here, again]
          exact ih later

variable {pairs : List Relation}

theorem unit_score {wanted : Json → Bool} {hit : Hit}
    (member : hit ∈ pairs.flatMap (hitsWhere wanted s)) : hit.score = unitScore := by
  obtain ⟨r, -, inside⟩ := List.mem_flatMap.mp member
  obtain ⟨d, -, rfl⟩ := List.mem_map.mp inside
  rfl

theorem predicate_satisfies {request : SearchRequest} {mapping : Mapping} {p : Predicate}
    (compiled : predicateOf request mapping = .ok p) (source : Json) :
    p.matchesSource source = true ↔ Satisfies request source := by
  rw [predicateOf] at compiled
  rw [Satisfies]
  cases asked : request.query with
  | none =>
      rw [asked] at compiled
      cases compiled
      simp [Predicate.matchesSource, Predicate.holds]
  | some query =>
      rw [asked] at compiled
      obtain ⟨q, read, compiled⟩ := Query.compiled_of_json compiled
      have rendered : Query.Rendered source q p := Query.compile_rendered q compiled
      simp only [Option.mem_some_iff, forall_eq', read, Option.some.injEq, exists_eq_left']
      exact rendered

theorem predicate_accepted {request : SearchRequest} {mapping : Mapping} {p : Predicate}
    (compiled : predicateOf request mapping = .ok p) (other : Mapping) : ∃ p', predicateOf request other = .ok p' := by
  rw [predicateOf] at compiled ⊢
  cases asked : request.query with
  | none => exact ⟨_, rfl⟩
  | some query =>
      rw [asked] at compiled
      exact Query.json_accepted compiled other

theorem pairs_refused {request : SearchRequest} {r : Relation} {e : Failure} (present : r ∈ pairs)
    (refused : predicateOf request (mappingOf s.memory r) = .error e) :
    Answers s pairs request (.error e) := by
  rw [predicateOf] at refused
  cases asked : request.query with
  | none =>
      rw [asked] at refused
      cases refused
  | some query =>
      rw [asked] at refused
      obtain ⟨cause, rfl⟩ := Query.json_malformed _ query e refused
      exact .refused (List.ne_nil_of_mem present) query asked cause (Query.json_refused refused)

theorem pairs_found {request : SearchRequest} {r : Relation} {p : Predicate} (present : r ∈ pairs)
    (compiled : predicateOf request (mappingOf s.memory r) = .ok p) :
    Answers s pairs request (pairs.mapM (pairHits request s) >>= pageOf request) := by
  have each (q : Relation) : pairHits request s q = .ok (hitsWhere p.matchesSource s q) := by
    obtain ⟨p', there⟩ := predicate_accepted compiled (mappingOf s.memory q)
    have alike : p'.matchesSource = p.matchesSource := by
      funext source
      rw [Bool.eq_iff_iff, predicate_satisfies there, predicate_satisfies compiled]
    rw [pairHits, there, ← alike]
    rfl
  have found : pairs.mapM (pairHits request s) = .ok (pairs.map (hitsWhere p.matchesSource s)) := by
    rw [funext each]
    exact List.mapM_pure ..
  have filled : (pairs.map (hitsWhere p.matchesSource s)).isEmpty = false := by
    rw [List.isEmpty_map, List.isEmpty_eq_false_iff]
    exact List.ne_nil_of_mem present
  have answered : pairs.mapM (pairHits request s) >>= pageOf request =
      .ok (.page (pairs.flatMap (hitsWhere p.matchesSource s)) request.offset request.limit 0) := by
    rw [found, List.flatMap_def]
    simp only [bind, Except.bind, pageOf, filled, Bool.false_eq_true, if_false]
  rw [answered]
  refine .page (List.ne_nil_of_mem present) ?_ p.matchesSource (predicate_satisfies compiled) _ rfl rfl ?_
  · intro query asked mapping
    have accepted := predicate_accepted compiled mapping
    rw [predicateOf, asked] at accepted
    exact accepted
  · apply max_score
    intro hit shown
    exact unit_score (List.mem_of_mem_drop (List.mem_of_mem_take shown))

theorem run_answers (request : SearchRequest) (s : State) (pairs : List Relation) :
    Answers s pairs request (pairs.mapM (pairHits request s) >>= pageOf request) := by
  cases pairs with
  | nil => exact .nothing rfl
  | cons r rest =>
      have first := List.mem_cons_self (a := r) (l := rest)
      cases compiled : predicateOf request (mappingOf s.memory r) with
      | error e =>
          have refused : (r :: rest).mapM (pairHits request s) >>= pageOf request = .error e := by
            rw [List.mapM_cons, pairHits, compiled]
            rfl
          rw [refused]
          exact pairs_refused first compiled
      | ok p => exact pairs_found first compiled

/-- A search in memory answers a page of the documents that satisfy the query, or refuses it, and writes nothing. -/
theorem search_answers_page (ops : List Store.Operation) (indexPattern typePattern : String) (request : SearchRequest) :
    ∃ pairs : List Relation, pairs.Pairwise Relation.Before ∧
      (∀ r, r ∈ pairs ↔ ((Store.after ops).memory.typeOf? r).isSome ∧
        Pattern.Wildcard indexPattern.toList r.index.toList ∧ Pattern.Wildcard typePattern.toList r.type.toList) ∧
      (∀ r ∈ pairs, ((Store.after ops).rows r).map (·.id) = Store.arrivals (Store.deedsIn r.table ops)) ∧
      Answers (Store.after ops) pairs request ((run indexPattern typePattern request).inMemory (Store.after ops)).1 ∧
      ((run indexPattern typePattern request).inMemory (Store.after ops)).2.memory = (Store.after ops).memory := by
  have sound := Store.after_sound ops
  obtain ⟨known, answered, -⟩ : ∃ known, (run indexPattern typePattern request).inMemory (Store.after ops) = (_, ⟨_, known⟩) ∧ _ :=
    reads_run indexPattern typePattern request (Store.after ops) _ sound
  refine ⟨(Store.after ops).pairs indexPattern typePattern, pairs_in_order sound _ _, fun r => mem_pairs sound, ?_, ?_, ?_⟩
  · intro r member
    obtain ⟨entry, typed⟩ := Option.isSome_iff_exists.mp ((mem_pairs sound).mp member).1
    rw [State.rows, typed]
    exact Store.made_arrivals (Store.table_made ops r)
  · rw [answered]
    exact run_answers request _ _
  · rw [answered]

end Search

end SearchStore

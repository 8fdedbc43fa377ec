import SearchStore.Proofs.Search.Pages
import SearchStore.Proofs.Store.Options

/-!
Searches and the options of the types they look into. The options of a type are its mapping, and a
mapping decides about nothing but analyzers, which no search in memory heeds. So a search finds the same
under all options, and a query that is refused is refused for every type alike.
-/

set_option autoImplicit false

namespace SearchStore

namespace Mapping

theorem read_analyzer_named (type : String) (root : Json) (field : String) : (ofJson type root).analyzer? field ≠ some "" := by
  rw [analyzer?, field?, ofJson]
  cases (properties? type root).bind (·.object?) with
  | none => exact fun given => by cases given
  | some members =>
      simp only [Keyed.find_map fieldOfJson members field]
      cases Keyed.find? members field with
      | none => exact fun given => by cases given
      | some spec => simp [fieldOfJson]

theorem analyzer_named (type options field : String) : (ofOptions type options).analyzer? field ≠ some "" := by
  rw [ofOptions]
  cases Json.parse? options with
  | none => exact fun given => by cases given
  | some root => exact read_analyzer_named type root field

end Mapping

namespace Search

open Store (State Operation after)
open Store.State StoreM

variable {s : State}

theorem predicate_annotated (request : SearchRequest) (m other : Mapping) :
    predicateOf request other = (predicateOf request m).map (·.annotate other.analyzer?) := by
  rw [predicateOf, predicateOf]
  cases request.query with
  | none => rfl
  | some query => exact Query.json_annotated m other query

theorem pairs_bare (s : State) (indexPattern typePattern : String) :
    s.bare.pairs indexPattern typePattern = s.pairs indexPattern typePattern := by
  simp only [pairs, memory_bare, Memory.listed_bare, Memory.types_listed_bare]

theorem pair_hits_bare (request : SearchRequest) (s : State) (r : Relation) : pairHits request s.bare r = pairHits request s r := by
  rw [pairHits, pairHits, predicate_annotated request (mappingOf s.memory r)]
  cases predicateOf request (mappingOf s.memory r) with
  | error e => rfl
  | ok p =>
      have matched : (p.annotate (mappingOf s.bare.memory r).analyzer?).matchesSource = p.matchesSource :=
        funext fun source => Predicate.annotated_matches source p
      have hits : hitsWhere p.matchesSource s.bare r = hitsWhere p.matchesSource s r := by
        rw [hitsWhere, hitsWhere, rows_bare]
      change Except.ok (hitsWhere _ s.bare r) = Except.ok (hitsWhere _ s r)
      rw [matched, hits]

def found (indexPattern typePattern : String) (request : SearchRequest) (s : State) : Except Failure SearchEnvelope :=
  (s.pairs indexPattern typePattern).mapM (pairHits request s) >>= pageOf request

theorem run_found (sound : s.Sound) (indexPattern typePattern : String) (request : SearchRequest) :
    ((run indexPattern typePattern request).inMemory s).1 = found indexPattern typePattern request s := by
  obtain ⟨known, answered, -⟩ : ∃ known, (run indexPattern typePattern request).inMemory s = (_, ⟨_, known⟩) ∧ _ :=
    reads_run indexPattern typePattern request s _ sound
  rw [answered, found]

theorem found_bare (indexPattern typePattern : String) (request : SearchRequest) (s : State) :
    found indexPattern typePattern request s.bare = found indexPattern typePattern request s := by
  rw [found, found, pairs_bare, funext (pair_hits_bare request s)]

theorem found_alike {s s' : State} (alike : s.memory.bare = s'.memory.bare) (indexPattern typePattern : String)
    (request : SearchRequest) : found indexPattern typePattern request s = found indexPattern typePattern request s' := by
  calc found indexPattern typePattern request s
    _ = found indexPattern typePattern request ⟨s.memory.bare, s'.known⟩ := (found_bare ..).symm
    _ = found indexPattern typePattern request s'.bare := by rw [alike, bare]
    _ = found indexPattern typePattern request s' := found_bare ..

theorem hits_refused {request : SearchRequest} {query : Json} {e : Failure} {m : Mapping} (sound : s.Sound)
    (asked : request.query = some query) (refused : Query.compileJson query m = .error e) (r : Relation) :
    ((hitsOf request r.index r.type).inMemory s).1 = .error e := by
  obtain ⟨known, answered, -⟩ : ∃ known, (hitsOf request r.index r.type).inMemory s = (_, ⟨_, known⟩) ∧ _ :=
    reads_hits request s r _ sound
  rw [answered, pairHits, predicateOf, asked]
  simp only [Query.json_refused refused]
  rfl

theorem run_refused {request : SearchRequest} {query : Json} {e : Failure} {m : Mapping} (sound : s.Sound)
    (asked : request.query = some query) (refused : Query.compileJson query m = .error e)
    {indexPattern typePattern : String} (some : s.pairs indexPattern typePattern ≠ []) :
    ((run indexPattern typePattern request).inMemory s).1 = .error e := by
  obtain ⟨r, rest, pairs⟩ := List.exists_cons_of_ne_nil some
  have first : pairHits request s r = .error e := by
    rw [pairHits, predicateOf, asked]
    simp only [Query.json_refused refused]
    rfl
  rw [run_found sound, found, pairs, List.mapM_cons, first]
  rfl

/-- Mappings and options decide about the analyzers of a predicate, and neither about its refusal nor about what a search answers. -/
theorem mapping_decides_analyzers_only (query : Json) (m m' : Mapping) (ops ops' : List Operation) :
    Query.SameButAnalyzers m m' (Query.compileJson query m) (Query.compileJson query m') ∧
    (∀ type options field, (Mapping.ofOptions type options).analyzer? field ≠ some "") ∧
    ((after ops).memory.bare = (after ops').memory.bare → ∀ indexPattern typePattern request,
      ((run indexPattern typePattern request).inMemory (after ops)).1 =
        ((run indexPattern typePattern request).inMemory (after ops')).1) ∧
    (∀ e, Query.compileJson query m = .error e → ∀ request indexPattern typePattern, request.query = some query →
      ∀ r ∈ (after ops).pairs indexPattern typePattern,
        ((hitsOf request r.index r.type).inMemory (after ops)).1 = .error e ∧
          ((run indexPattern typePattern request).inMemory (after ops)).1 = .error e) := by
  have sound := Store.after_sound ops
  refine ⟨Query.json_same_but_analyzers query m m', Mapping.analyzer_named, ?_, ?_⟩
  · intro alike indexPattern typePattern request
    rw [run_found sound, run_found (Store.after_sound ops'), found_alike alike]
  · intro e refused request indexPattern typePattern asked r member
    exact ⟨hits_refused sound asked refused r, run_refused sound asked refused (List.ne_nil_of_mem member)⟩

def written (options : String) : List Operation :=
  [.createType "i" "t" options, .createDocument "i" "t" (.object [("f", .string "x y")]) none]

def englishField : Json :=
  .object [("properties", .object [("f", .object [("type", .string "text"), ("analyzer", .string "english")])])]

def emptyMatch : Json := .object [("match", .object [])]

theorem english_field_decides_nothing :
    (∀ request, ((run "*" "*" request).inMemory (after (written ""))).1 =
      ((run "*" "*" request).inMemory (after (written englishField.text))).1) ∧
    ((hitsOf ⟨some emptyMatch, none, none⟩ "i" "t").inMemory (after (written ""))).1 =
      .error (.malformedInput .noMatchField) ∧
    ((run "*" "*" ⟨some emptyMatch, none, none⟩).inMemory (after (written ""))).1 =
      .error (.malformedInput .noMatchField) := by
  have alike : (after (written "")).memory.bare = (after (written englishField.text)).memory.bare := Store.alike_histories rfl
  have refused : Query.compileJson emptyMatch .empty = .error (.malformedInput .noMatchField) := by rfl
  have typed : ((after (written "")).memory.typeOf? ⟨"i", "t"⟩).isSome := by rfl
  have present : ⟨"i", "t"⟩ ∈ (after (written "")).pairs "*" "*" :=
    (mem_pairs (Store.after_sound _)).mpr
      ⟨typed, (Pattern.wildcard_accepts_iff "*" "i").mp rfl, (Pattern.wildcard_accepts_iff "*" "t").mp rfl⟩
  obtain ⟨-, -, found, refusals⟩ :=
    mapping_decides_analyzers_only emptyMatch .empty .empty (written "") (written englishField.text)
  exact ⟨found alike "*" "*", refusals _ refused ⟨some emptyMatch, none, none⟩ "*" "*" rfl ⟨"i", "t"⟩ present⟩

end Search

end SearchStore

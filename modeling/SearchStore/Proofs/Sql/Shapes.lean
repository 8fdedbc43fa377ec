import SearchStore.Proofs.Sql.Bindings
import SearchStore.Proofs.Sql.Quoting
import SearchStore.Proofs.Store.Operation
import SearchStore.Sql.Script

/-!
What the texts sent to a server depend on. Two operations of one shape, about the same names, send the
same texts as long as the server replies the same, for ids, documents, options, patterns and the values
of a query are bound as parameters. Names get into a text only within quotes.
-/

set_option autoImplicit false

namespace SearchStore

mutual
-- A predicate without the values of its text conditions.
def Predicate.shape : Predicate → Predicate
  | .matchAll => .matchAll
  | .text m => .text ⟨"", "", m.mode, m.analyzer.map fun _ => ""⟩
  | .and children => .and (shapes children)
  | .or children => .or (shapes children)

def Predicate.shapes : List Predicate → List Predicate
  | [] => []
  | p :: rest => p.shape :: shapes rest
end

namespace Store.Operation

-- Of an id only counts whether there is one.
def idShape (id : String) : String := if id = "" then "" else "1"

def shape : Operation → Operation
  | .createCatalog => .createCatalog
  | .createIndex name _ => .createIndex name ""
  | .getIndex name => .getIndex name
  | .findIndices _ => .findIndices ""
  | .createType index name _ => .createType index name ""
  | .getType index name => .getType index name
  | .replaceTypeOptions index name _ => .replaceTypeOptions index name ""
  | .findTypes index _ => .findTypes index ""
  | .createDocument index type _ id => .createDocument index type .null ((id.filter (· ≠ "")).map fun _ => "1")
  | .getDocument index type id => .getDocument index type (idShape id)
  | .documentExists index type id => .documentExists index type (idShape id)
  | .updateDocument index type _ id => .updateDocument index type .null (idShape id)
  | .deleteDocument index type id => .deleteDocument index type (idShape id)
  | .select index type predicate => .select index type predicate.shape

def IdAccepted : Operation → Prop
  | .createDocument _ _ _ id => ∀ given ∈ id, checkId given = .ok ()
  | _ => True

end Store.Operation

namespace Sql

def Piece.erase : Piece → Piece
  | .word s => .word s
  | .value _ => .value ""

theorem text_from_erased (n : Nat) (pieces : List Piece) : Piece.textFrom n (pieces.map Piece.erase) = Piece.textFrom n pieces := by
  induction pieces generalizing n with
  | nil => rfl
  | cons piece rest ih => cases piece <;> simp only [List.map_cons, Piece.erase, Piece.textFrom, ih]

theorem text_erased (m : TextCondition) :
    Condition.ofText ⟨"", "", m.mode, m.analyzer.map fun _ => ""⟩ = (Condition.ofText m).map Piece.erase := by
  obtain ⟨field, query, mode, analyzer⟩ := m
  cases analyzer <;> rfl

theorem join_erased (operator constant : String) (conditions : List (List Piece)) :
    Condition.join operator constant (conditions.map (·.map Piece.erase)) =
      (Condition.join operator constant conditions).map Piece.erase := by
  cases conditions with
  | nil => rfl
  | cons first rest =>
      simp only [Condition.join, List.map_cons, List.map_append, List.map_flatMap, List.flatMap_map, Piece.erase, List.map_nil]

mutual
theorem shape_erased : ∀ p : Predicate, Condition.ofPredicate p.shape = (Condition.ofPredicate p).map Piece.erase
  | .matchAll => rfl
  | .text m => text_erased m
  | .and children => by
      rw [Predicate.shape, Condition.ofPredicate, shapes_erased children, join_erased, Condition.ofPredicate]
  | .or children => by
      rw [Predicate.shape, Condition.ofPredicate, shapes_erased children, join_erased, Condition.ofPredicate]

theorem shapes_erased : ∀ ps : List Predicate,
    Condition.ofPredicates (Predicate.shapes ps) = (Condition.ofPredicates ps).map (·.map Piece.erase)
  | [] => rfl
  | p :: rest => by
      rw [Predicate.shapes, Condition.ofPredicates, shape_erased p, shapes_erased rest, Condition.ofPredicates, List.map_cons]
end

theorem select_text_shape (r : Relation) (p : Predicate) :
    (Statement.selectDocuments r p.shape).text = (Statement.selectDocuments r p).text := by
  have condition := text_from_erased 1 (Condition.ofPredicate p)
  rw [← shape_erased] at condition
  exact congrArg (_ ++ ·) condition

def Command.Proper : Command → Prop
  | .run s => s.Proper
  | _ => True

variable {α β γ δ : Type}

-- Two dialogues that send equal texts, with proper names, as long as they get the same replies.
inductive Twins (related : α → β → Prop) : Dialogue Database α → Dialogue Database β → Prop where
  | done (a : α) (b : β) (alike : related a b) : Twins related (.done a) (.done b)
  | same (c : Command) (proper : c.Proper) (next : Database.Reply c → Dialogue Database α)
      (next' : Database.Reply c → Dialogue Database β) (rest : ∀ reply, Twins related (next reply) (next' reply)) :
      Twins related (.ask c next) (.ask c next')
  | run (s t : Statement) (text : s.text = t.text) (proper : s.Proper) (next : Except String (List s.Row) → Dialogue Database α)
      (next' : Except String (List t.Row) → Dialogue Database β)
      (rest : ∀ reply, Twins related (next (s.read reply)) (next' (t.read reply))) :
      Twins related (.ask (I := Database) (.run s) next) (.ask (I := Database) (.run t) next')

theorem twins_bind {related : α → β → Prop} {later : γ → δ → Prop} {d : Dialogue Database α} {e : Dialogue Database β}
    {f : α → Dialogue Database γ} {g : β → Dialogue Database δ} (first : Twins related d e)
    (rest : ∀ a b, related a b → Twins later (f a) (g b)) : Twins later (d >>= f) (e >>= g) := by
  induction first with
  | done a b alike => exact rest a b alike
  | same c proper next next' _ ih => exact .same c proper _ _ ih
  | run s t text proper next next' _ ih => exact .run s t text proper _ _ ih

structure Paired (left right : ScriptedServer) : Prop where
  replies : left.replies = right.replies
  outcomes : left.outcomes = right.outcomes
  texts : left.log.map Command.text = right.log.map Command.text
  proper : ∀ c ∈ left.log, c.Proper

theorem paired_next {left right : ScriptedServer} (paired : Paired left right) {replies : List Reply}
    {outcomes : List (Except String Unit)} {c d : Command} (text : c.text = d.text) (proper : c.Proper) :
    Paired ⟨replies, outcomes, left.log ++ [c]⟩ ⟨replies, outcomes, right.log ++ [d]⟩ where
  replies := rfl
  outcomes := rfl
  texts := by rw [List.map_append, List.map_append, paired.texts, List.map_singleton, List.map_singleton, text]
  proper := List.forall_mem_append.mpr ⟨paired.proper, List.forall_mem_singleton.mpr proper⟩

theorem replied_alike {left right : ScriptedServer} (paired : Paired left right) {s t : Statement} (text : s.text = t.text)
    (proper : s.Proper) :
    ∃ reply next next', (ScriptedServer.answer (.run s)).run left = (s.read reply, next) ∧
      (ScriptedServer.answer (.run t)).run right = (t.read reply, next') ∧ Paired next next' := by
  obtain ⟨replies, outcomes, log⟩ := left
  obtain ⟨_, _, log'⟩ := right
  obtain ⟨rfl, rfl, -, -⟩ := id paired
  exact ⟨_, _, _, rfl, rfl, paired_next paired text proper⟩

theorem answered_alike {left right : ScriptedServer} (paired : Paired left right) {c : Command} (proper : c.Proper) :
    ∃ reply next next', (ScriptedServer.answer c).run left = (reply, next) ∧ (ScriptedServer.answer c).run right = (reply, next') ∧
      Paired next next' := by
  obtain ⟨replies, outcomes, log⟩ := left
  obtain ⟨_, _, log'⟩ := right
  obtain ⟨rfl, rfl, -, -⟩ := id paired
  cases c <;> exact ⟨_, _, _, rfl, rfl, paired_next paired rfl proper⟩

theorem twins_run {related : α → β → Prop} {d : Dialogue Database α} {e : Dialogue Database β} (twins : Twins related d e)
    {left right : ScriptedServer} (paired : Paired left right) :
    related ((d.run ScriptedServer.answer).run left).1 ((e.run ScriptedServer.answer).run right).1 ∧
      Paired ((d.run ScriptedServer.answer).run left).2 ((e.run ScriptedServer.answer).run right).2 := by
  induction twins generalizing left right with
  | done a b alike => exact ⟨alike, paired⟩
  | same c proper next next' _ ih =>
      obtain ⟨reply, after, after', first, second, onward⟩ := answered_alike paired proper
      rw [Dialogue.run, Dialogue.run, StateT.run_bind, StateT.run_bind, first, second]
      exact ih reply onward
  | run s t text proper next next' _ ih =>
      obtain ⟨reply, after, after', first, second, onward⟩ := replied_alike paired text proper
      rw [Dialogue.run, Dialogue.run, StateT.run_bind, StateT.run_bind, first, second]
      exact ih reply onward

inductive Agree (holds : α → Prop) : Except Failure α → Except Failure α → Prop where
  | ok (a : α) (here : holds a) : Agree holds (.ok a) (.ok a)
  | error (e f : Failure) : Agree holds (.error e) (.error f)

def Anything : α → Prop := fun _ => True

def Served (d e : DatabaseM α) : Prop := Twins (Agree Anything) d.run e.run

theorem served_pure (a : α) : Served (pure a) (pure a) := .done _ _ (.ok a trivial)

theorem served_throw (e : Failure) : Served (throw e : DatabaseM α) (throw e) := .done _ _ (.error e e)

theorem served_bind {d e : DatabaseM α} {f g : α → DatabaseM β} (first : Served d e) (rest : ∀ a, Served (f a) (g a)) :
    Served (d >>= f) (e >>= g) := by
  refine twins_bind first ?_
  intro x y alike
  cases alike with
  | ok a here => exact rest a
  | error e f => exact .done _ _ (.error e f)

def told (read? : List Json → Option α) : Reply → Except String (List α)
  | .failure text => .error text
  | .rows values =>
      match values.mapM read? with
      | some rows => .ok rows
      | none => .error "unexpected columns"

theorem read_told (s : Statement) (reply : Reply) : s.read reply = told s.row? reply := by
  cases reply with
  | failure text => rfl
  | rows values =>
      rw [Statement.read, told]
      cases values.mapM s.row? <;> rfl

def Told (s t : Statement) (x : Except Failure (List s.Row)) (y : Except Failure (List t.Row)) : Prop :=
  ∃ reply, x = (told s.row? reply).mapError (fun e => .queryFailure (.database e)) ∧
    y = (told t.row? reply).mapError (fun e => .queryFailure (.database e))

theorem rows_told {s t : Statement} (text : s.text = t.text) (proper : s.Proper) : Twins (Told s t) (rows s).run (rows t).run := by
  refine .run s t text proper _ _ fun reply => .done _ _ ⟨reply, ?_, ?_⟩
  · rw [read_told]
  · rw [read_told]

theorem served_rows {s t : Statement} {f : List s.Row → α} {g : List t.Row → α} (text : s.text = t.text) (proper : s.Proper)
    (same : ∀ reply, (told s.row? reply).map f = (told t.row? reply).map g) :
    Served (do return f (← rows s)) (do return g (← rows t)) := by
  refine twins_bind (rows_told text proper) ?_
  rintro x y ⟨reply, rfl, rfl⟩
  have read := same reply
  cases left : told s.row? reply with
  | error e =>
      rw [left] at read
      cases right : told t.row? reply with
      | error e' => exact .done _ _ (.error _ _)
      | ok b =>
          rw [right] at read
          cases read
  | ok a =>
      rw [left] at read
      cases right : told t.row? reply with
      | error e' =>
          rw [right] at read
          cases read
      | ok b =>
          rw [right, Except.map, Except.map, Except.ok.injEq] at read
          refine .done _ _ ?_
          rw [read]
          exact .ok _ trivial

variable {r : Relation} {options other : String} {source content : Json} {id : String} {p q : Predicate}

theorem served_execute {s : Statement} (proper : s.Proper) : Served (execute s) (execute s) :=
  served_rows rfl proper fun _ => rfl

theorem unnamed_proper {s : Statement} (unnamed : s.relation? = none) : s.Proper := by
  intro q named
  rw [unnamed] at named
  cases named

theorem named_proper {s : Statement} (named : s.relation? = some r) (valid : Relation.ofNames r.index r.type = .ok r) : s.Proper := by
  intro q about
  rw [named] at about
  cases about
  exact valid

theorem served_insert_index (name : String) : Served (row (.insertIndex name options)) (row (.insertIndex name other)) :=
  served_rows rfl (unnamed_proper rfl) fun _ => rfl

theorem served_list_indices (pattern other : Pattern) : Served (rows (.listIndices pattern)) (rows (.listIndices other)) := by
  have listed : Served (do return id (← rows (.listIndices pattern))) (do return id (← rows (.listIndices other))) :=
    served_rows rfl (unnamed_proper rfl) fun _ => rfl
  simpa only [id, bind_pure] using listed

theorem served_list_types (index : String) (pattern other : Pattern) :
    Served (rows (.listTypes index pattern)) (rows (.listTypes index other)) := by
  have listed : Served (do return id (← rows (.listTypes index pattern))) (do return id (← rows (.listTypes index other))) :=
    served_rows rfl (unnamed_proper rfl) fun _ => rfl
  simpa only [id, bind_pure] using listed

theorem served_select (valid : Relation.ofNames r.index r.type = .ok r) (p : Predicate) :
    Served (rows (.selectDocuments r p)) (rows (.selectDocuments r p.shape)) := by
  have listed : Served (do return id (← rows (.selectDocuments r p))) (do return id (← rows (.selectDocuments r p.shape))) :=
    served_rows (select_text_shape r p).symm (named_proper rfl valid) fun _ => rfl
  simpa only [id, bind_pure] using listed

theorem served_send (c : Command) (proper : c.Proper) : Served (send c) (send c) := by
  refine .same c proper _ _ fun reply => ?_
  cases reply with
  | ok a => exact .done _ _ (.ok a trivial)
  | error text => exact .done _ _ (.error _ _)

theorem served_or_abandon {d e : DatabaseM α} (served : Served d e) : Served (orAbandon d) (orAbandon e) := by
  refine twins_bind served fun x y agree => ?_
  cases agree with
  | ok a here => exact .done _ _ (.ok a trivial)
  | error e f => exact .same .rollback trivial _ _ fun _ => .done _ _ (.error e f)

theorem served_transaction {d e : DatabaseM (Option α)} (block : Served d e) : Served (transaction d) (transaction e) := by
  refine served_bind (served_send .begin trivial) fun _ => served_or_abandon (served_bind block fun outcome => ?_)
  cases outcome with
  | some a => exact served_bind (served_send .commit trivial) fun _ => served_pure _
  | none => exact served_bind (served_send .rollback trivial) fun _ => served_pure _

theorem served_insert_type (valid : Relation.ofNames r.index r.type = .ok r) : Served (insertType r options) (insertType r other) := by
  apply served_transaction
  refine served_bind (served_rows rfl (named_proper rfl valid) fun _ => rfl) fun record => ?_
  cases record with
  | none => exact served_pure none
  | some record =>
      refine served_bind (served_execute (named_proper rfl valid)) fun _ => ?_
      exact served_bind (served_execute (named_proper rfl valid)) fun _ => served_pure _

theorem served_insert_generated (valid : Relation.ofNames r.index r.type = .ok r) (draws : Nat) :
    Served (insertGenerated r source draws) (insertGenerated r content draws) := by
  induction draws with
  | zero => exact served_throw _
  | succ draws ih =>
      refine served_bind (served_rows rfl (named_proper rfl valid) fun _ => rfl) fun d => ?_
      cases d with
      | some d => exact served_pure _
      | none => exact ih

end Sql

def KnownRelations.Proper (g : KnownRelations) : Prop := ∀ r ∈ g.relations, Relation.ofNames r.index r.type = .ok r

namespace Dialogue

variable {I J : Interface} {α : Type}

theorem run_run {m : Type → Type} [Monad m] [LawfulMonad m] (first : (r : I.Request) → Dialogue J (I.Reply r))
    (second : (r : J.Request) → m (J.Reply r)) (d : Dialogue I α) :
    (d.run first).run second = d.run fun r => (first r).run second := by
  induction d with
  | done a => rfl
  | ask r next ih =>
      refine (run_bind second (first r) _).trans ?_
      exact congrArg ((first r).run second >>= ·) (funext ih)

end Dialogue

namespace StoreM

open Sql

variable {α β : Type}

structure Ends (holds : α → Prop) (x y : Except Failure α × KnownRelations) : Prop where
  known : x.2 = y.2
  proper : x.2.Proper
  agree : Agree holds x.1 y.1

def Alike (holds : α → Prop) (op op' : StoreM α) : Prop :=
  ∀ g : KnownRelations, g.Proper → Twins (Ends holds) ((op g).run Sql.answer) ((op' g).run Sql.answer)

variable {holds : α → Prop} {later : β → Prop}

theorem alike_pure {a : α} (here : holds a) : Alike holds (pure a) (pure a) :=
  fun _ proper => .done _ _ ⟨rfl, proper, .ok a here⟩

theorem alike_throw (e f : Failure) : Alike holds (throw e) (throw f) := fun _ proper => .done _ _ ⟨rfl, proper, .error e f⟩

theorem alike_bind {op op' : StoreM α} {f f' : α → StoreM β} (first : Alike holds op op')
    (rest : ∀ a, holds a → Alike later (f a) (f' a)) : Alike later (op >>= f) (op' >>= f') := by
  intro g proper
  have left : (((op >>= f) g).run Sql.answer : Dialogue Database _) = _ := Dialogue.run_bind Sql.answer (op g) _
  have right : (((op' >>= f') g).run Sql.answer : Dialogue Database _) = _ := Dialogue.run_bind Sql.answer (op' g) _
  rw [left, right]
  refine twins_bind (first g proper) ?_
  rintro ⟨x, g⟩ ⟨y, g'⟩ ⟨known, proper, agree⟩
  cases known
  cases agree with
  | error e f => exact .done _ _ ⟨rfl, proper, .error e f⟩
  | ok a here => exact rest a here g proper

theorem alike_lift {r : Except Failure α} (here : ∀ a, r = .ok a → holds a) : Alike holds (liftM r) (liftM r) := by
  cases r with
  | error e => exact alike_throw e e
  | ok a => exact alike_pure (here a rfl)

theorem alike_request {op op' : StoreM α} {d d' : DatabaseM α}
    (asks : ∀ g, (op g).run Sql.answer = d.run >>= fun x => .done (x, g))
    (asks' : ∀ g, (op' g).run Sql.answer = d'.run >>= fun x => .done (x, g)) (served : Served d d') : Alike Anything op op' := by
  intro g proper
  rw [asks, asks']
  exact twins_bind served fun x y agree => .done _ _ ⟨rfl, proper, agree⟩

theorem alike_get : Alike KnownRelations.Proper (getThe KnownRelations) (getThe KnownRelations) :=
  fun g proper => .done _ _ ⟨rfl, proper, .ok g proper⟩

theorem alike_modify {f : KnownRelations → KnownRelations} (keeps : ∀ g : KnownRelations, g.Proper → (f g).Proper) :
    Alike Anything (modifyThe KnownRelations f) (modifyThe KnownRelations f) :=
  fun g proper => .done _ _ ⟨rfl, keeps g proper, .ok () trivial⟩

theorem alike_return {op op' : StoreM α} {f : α → β} (first : Alike holds op op') :
    Alike Anything (do return f (← op)) (do return f (← op')) := alike_bind first fun _ _ => alike_pure trivial

end StoreM

namespace KnownRelations

open StoreM Sql

def Accepted (r : Relation) : Prop := Relation.ofNames r.index r.type = .ok r

variable {g : KnownRelations} {r q : Relation} {index type options other : String}

theorem find_accepted (proper : g.Proper) (found : g.find? index type = some r) : Accepted r :=
  proper r (List.mem_of_find?_eq_some found)

theorem insert_proper (accepted : Accepted r) (proper : g.Proper) : (g.insert r).Proper := by
  rw [insert]
  split
  · exact proper
  · exact List.forall_mem_append.mpr ⟨proper, List.forall_mem_singleton.mpr accepted⟩

theorem alike_note (accepted : Accepted r) : Alike Accepted (note r) (note r) := by
  refine alike_bind (alike_modify fun _ proper => insert_proper accepted proper) fun _ _ => ?_
  refine alike_bind alike_get fun g proper => ?_
  apply alike_pure
  cases found : g.find? r.index r.type with
  | none => exact accepted
  | some q => exact find_accepted proper found

theorem alike_names (index type : String) : Alike Accepted (liftM (Relation.ofNames index type)) (liftM (Relation.ofNames index type)) :=
  alike_lift fun _ valid => Store.valid_pair valid

theorem alike_fetch_type (index type : String) :
    Alike Anything (StoreM.ask (.fetchType index type)) (StoreM.ask (.fetchType index type)) :=
  alike_request (fun _ => rfl) (fun _ => rfl) (served_rows rfl (unnamed_proper rfl) fun _ => rfl)

theorem alike_look_up (index type : String) :
    Alike (fun found => ∀ r ∈ found, Accepted r) (lookUp index type) (lookUp index type) := by
  refine alike_bind alike_get fun g proper => ?_
  cases found : g.find? index type with
  | some r =>
      apply alike_pure
      rintro _ ⟨⟩
      exact find_accepted proper found
  | none =>
      refine alike_bind (alike_names index type) fun r accepted => ?_
      refine alike_bind (alike_fetch_type index type) fun entry _ => ?_
      cases entry with
      | none => exact alike_pure fun _ none => by cases none
      | some entry =>
          refine alike_bind (alike_note accepted) fun q accepted => alike_pure ?_
          rintro _ ⟨⟩
          exact accepted

theorem alike_establish (index type options other : String) :
    Alike (fun made => Accepted made.1) (establish index type options) (establish index type other) := by
  refine alike_bind (alike_names index type) fun r accepted => ?_
  refine alike_bind (alike_request (fun _ => rfl) (fun _ => rfl) (served_insert_index index)) fun _ _ => ?_
  refine alike_bind (alike_request (fun _ => rfl) (fun _ => rfl) (served_insert_type accepted)) fun entry _ => ?_
  cases entry with
  | some entry => exact alike_bind (alike_note accepted) fun _ accepted => alike_pure accepted
  | none =>
      refine alike_bind (alike_fetch_type index type) fun entry _ => ?_
      cases entry with
      | some entry => exact alike_bind (alike_note accepted) fun _ accepted => alike_pure accepted
      | none => exact alike_throw _ _

theorem alike_obtain (index type : String) : Alike Accepted (obtain index type) (obtain index type) := by
  refine alike_bind (alike_look_up index type) fun found accepted => ?_
  cases found with
  | some r => exact alike_pure (accepted r rfl)
  | none => exact alike_bind (alike_establish index type "" "") fun _ accepted => alike_pure accepted

end KnownRelations

namespace Store

open StoreM Sql KnownRelations

variable {index type : String}

theorem alike_relation (index type : String) :
    Alike (fun found => ∀ r ∈ found, Accepted r) (relation? index type) (relation? index type) := by
  rw [relation?]
  cases Relation.ofNames index type with
  | ok r => exact alike_look_up index type
  | error e => exact alike_pure fun _ none => by cases none

theorem alike_create_index (name options other : String) : Alike Anything (createIndex name options) (createIndex name other) := by
  refine alike_bind (alike_lift (r := checkIndexName name) fun _ _ => trivial) fun _ _ => ?_
  refine alike_bind (alike_request (fun _ => rfl) (fun _ => rfl) (served_insert_index name)) fun entry _ => ?_
  cases entry with
  | some entry => exact alike_pure trivial
  | none => exact alike_throw _ _

theorem alike_find_indices (pattern other : String) : Alike Anything (findIndices pattern) (findIndices other) :=
  alike_request (fun _ => rfl) (fun _ => rfl) (served_list_indices (.ofWildcard pattern) (.ofWildcard other))

theorem alike_find_types (index pattern other : String) : Alike Anything (findTypes index pattern) (findTypes index other) :=
  alike_request (fun _ => rfl) (fun _ => rfl) (served_list_types index (.ofWildcard pattern) (.ofWildcard other))

theorem alike_get_index (name : String) : Alike Anything (getIndex name) (getIndex name) :=
  alike_request (fun _ => rfl) (fun _ => rfl) (served_rows rfl (unnamed_proper rfl) fun _ => rfl)

theorem alike_create_catalog : Alike Anything createCatalog createCatalog := by
  refine alike_request (fun _ => rfl) (fun _ => rfl) ?_
  refine served_bind (served_execute (unnamed_proper rfl)) fun _ => ?_
  exact served_execute (unnamed_proper rfl)

theorem alike_create_type (index name options other : String) :
    Alike Anything (createType index name options) (createType index name other) := by
  refine alike_bind (alike_establish index name options other) fun made _ => ?_
  cases made.2 with
  | created entry => exact alike_pure trivial
  | existing entry => exact alike_throw _ _

theorem alike_replace_options (index name options other : String) :
    Alike Anything (replaceTypeOptions index name options) (replaceTypeOptions index name other) := by
  refine alike_bind (alike_request (fun _ => rfl) (fun _ => rfl) (served_rows rfl (unnamed_proper rfl) fun _ => rfl)) fun entry _ => ?_
  cases entry with
  | some entry => exact alike_pure trivial
  | none => exact alike_throw _ _

variable {source content : Json} {id other : String} {r : Relation}

theorem alike_get_document (same : id = "" ↔ other = "") : Alike Anything (getDocument index type id) (getDocument index type other) := by
  rw [getDocument, getDocument]
  by_cases empty : id = ""
  · rw [if_pos empty, if_pos (same.mp empty)]
    exact alike_pure trivial
  · rw [if_neg empty, if_neg (mt same.mpr empty)]
    refine alike_bind (alike_relation index type) fun found accepted => ?_
    cases found with
    | none => exact alike_pure trivial
    | some r =>
        refine alike_request (fun _ => rfl) (fun _ => rfl) (served_rows rfl (named_proper rfl (accepted r rfl)) fun _ => rfl)

theorem alike_delete_document (same : id = "" ↔ other = "") :
    Alike Anything (deleteDocument index type id) (deleteDocument index type other) := by
  rw [deleteDocument, deleteDocument]
  by_cases empty : id = ""
  · rw [if_pos empty, if_pos (same.mp empty)]
    exact alike_pure trivial
  · rw [if_neg empty, if_neg (mt same.mpr empty)]
    refine alike_bind (alike_relation index type) fun found accepted => ?_
    cases found with
    | none => exact alike_pure trivial
    | some r =>
        refine alike_request (fun _ => rfl) (fun _ => rfl) (served_rows rfl (named_proper rfl (accepted r rfl)) fun _ => rfl)

theorem alike_update_document (same : id = "" ↔ other = "") :
    Alike Anything (updateDocument index type source id) (updateDocument index type content other) := by
  rw [updateDocument, updateDocument]
  by_cases empty : id = ""
  · rw [if_pos empty, if_pos (same.mp empty)]
    exact alike_throw _ _
  · rw [if_neg empty, if_neg (mt same.mpr empty)]
    refine alike_bind (alike_relation index type) fun found accepted => ?_
    cases found with
    | none => exact alike_throw _ _
    | some r =>
        refine alike_bind (alike_request (fun _ => rfl) (fun _ => rfl)
          (served_rows rfl (named_proper rfl (accepted r rfl)) fun _ => rfl)) fun d _ => ?_
        cases d with
        | some d => exact alike_pure trivial
        | none => exact alike_throw _ _

theorem alike_select (index type : String) (p : Predicate) : Alike Anything (select index type p) (select index type p.shape) := by
  refine alike_bind (alike_relation index type) fun found accepted => ?_
  cases found with
  | none => exact alike_pure trivial
  | some r => exact alike_request (fun _ => rfl) (fun _ => rfl) (served_select (accepted r rfl) p)

theorem alike_create_document {id other : Option String} (same : (id.filter (· ≠ "")).isSome = (other.filter (· ≠ "")).isSome)
    (left : ∀ given ∈ id.filter (· ≠ ""), checkId given = .ok ()) (right : ∀ given ∈ other.filter (· ≠ ""), checkId given = .ok ()) :
    Alike Anything (createDocument index type source id) (createDocument index type content other) := by
  rw [createDocument, createDocument]
  generalize id.filter (· ≠ "") = id at *
  generalize other.filter (· ≠ "") = other at *
  cases id with
  | none =>
      cases other with
      | some j => cases same
      | none =>
          refine alike_bind (alike_obtain index type) fun r accepted => ?_
          refine alike_bind (alike_request (fun _ => rfl) (fun _ => rfl) (served_insert_generated accepted maxDraws)) fun d _ => ?_
          cases d with
          | some d => exact alike_pure trivial
          | none => exact alike_throw _ _
  | some i =>
      cases other with
      | none => cases same
      | some j =>
          simp only [left i rfl, right j rfl]
          refine alike_bind (alike_lift (r := .ok ()) fun _ _ => trivial) fun _ _ => ?_
          refine alike_bind (alike_obtain index type) fun r accepted => ?_
          refine alike_bind (alike_request (fun _ => rfl) (fun _ => rfl)
            (served_rows rfl (named_proper rfl accepted) fun _ => rfl)) fun d _ => ?_
          cases d with
          | some d => exact alike_pure trivial
          | none => exact alike_throw _ _

namespace Operation

theorem id_shape_empty (id : String) : id = "" ↔ idShape id = "" := by
  rw [idShape]
  by_cases empty : id = ""
  · simp [empty]
  · simp [empty]

theorem alike_shape (op : Operation) (accepted : op.IdAccepted) : Alike Anything op.perform op.shape.perform := by
  cases op with
  | createCatalog => exact alike_bind alike_create_catalog fun _ _ => alike_pure trivial
  | createIndex name options => exact alike_return (alike_create_index name options "")
  | getIndex name => exact alike_return (alike_get_index name)
  | findIndices pattern => exact alike_return (alike_find_indices pattern "")
  | createType index name options => exact alike_return (alike_create_type index name options "")
  | getType index name => exact alike_return (alike_fetch_type index name)
  | replaceTypeOptions index name options => exact alike_return (alike_replace_options index name options "")
  | findTypes index pattern => exact alike_return (alike_find_types index pattern "")
  | getDocument index type id => exact alike_return (alike_get_document (id_shape_empty id))
  | documentExists index type id =>
      exact alike_return (alike_return (alike_get_document (id_shape_empty id)))
  | updateDocument index type source id => exact alike_return (alike_update_document (id_shape_empty id))
  | deleteDocument index type id => exact alike_return (alike_delete_document (id_shape_empty id))
  | select index type predicate => exact alike_return (alike_select index type predicate)
  | createDocument index type source id =>
      refine alike_return (alike_create_document ?_ ?_ ?_)
      · cases id.filter (· ≠ "") <;> rfl
      · intro given member
        exact accepted given (Option.filter_eq_some_iff.mp member).1
      · intro given member
        obtain ⟨present, -⟩ := Option.filter_eq_some_iff.mp member
        obtain ⟨_, _, rfl⟩ := Option.map_eq_some_iff.mp present
        decide

def sent (op : Operation) (g : KnownRelations) (replies : List Reply) (outcomes : List (Except String Unit)) : List Command :=
  ((op.perform.runWith ScriptedServer.storageAnswer g).run (.start replies outcomes)).2.log

variable {g : KnownRelations} {replies : List Reply} {outcomes : List (Except String Unit)}

theorem run_script {α : Type} (d : Dialogue Storage α) :
    d.run ScriptedServer.storageAnswer = (d.run Sql.answer).run ScriptedServer.answer :=
  (Dialogue.run_run Sql.answer ScriptedServer.answer d).symm

theorem sent_alike {a b : Operation} (alike : Alike Anything a.perform b.perform) (proper : g.Proper) :
    (a.sent g replies outcomes).map Command.text = (b.sent g replies outcomes).map Command.text ∧
      ∀ c ∈ a.sent g replies outcomes, c.Proper := by
  have start : Paired (.start replies outcomes) (.start replies outcomes) := ⟨rfl, rfl, rfl, fun _ none => by cases none⟩
  obtain ⟨-, paired⟩ := twins_run (alike g proper) start
  rw [sent, sent, runWith, runWith, run_script, run_script]
  exact ⟨paired.texts, paired.proper⟩

theorem logged_among {may : Command → Prop} (c : Command) (s : ScriptedServer) (allowed : may c) (before : ∀ d ∈ s.log, may d) :
    ∀ d ∈ ((ScriptedServer.answer c).run s).2.log, may d := by
  have after : ((ScriptedServer.answer c).run s).2.log = s.log ++ [c] := by cases c <;> rfl
  rw [after]
  exact List.forall_mem_append.mpr ⟨before, List.forall_mem_singleton.mpr allowed⟩

theorem sent_bound (op : Operation) : ∀ c ∈ op.sent g replies outcomes, c.parameters ∈ op.bindings := by
  rw [sent, runWith, run_script]
  exact Dialogue.kept_by_run ScriptedServer.answer (fun s => ∀ c ∈ s.log, c.parameters ∈ op.bindings) logged_among
    (op.puts_bound g) fun _ none => by cases none

end Operation

open Operation

/-- Two operations of one shape send the same texts, whatever is replied to each command. What they are given besides
names is bound, and a name stands within quotes. -/
theorem texts_follow_shape (a b : Operation) (g : KnownRelations) (replies : List Reply) (outcomes : List (Except String Unit))
    (proper : g.Proper) (left : a.IdAccepted) (right : b.IdAccepted) (same : a.shape = b.shape) :
    (a.sent g replies outcomes).map Command.text = (b.sent g replies outcomes).map Command.text ∧
      (∀ c ∈ a.sent g replies outcomes, c.parameters ∈ a.bindings) ∧
      ∀ s, .run s ∈ a.sent g replies outcomes → s.Confined := by
  obtain ⟨first, accepted⟩ := sent_alike (alike_shape a left) proper
  obtain ⟨second, -⟩ := sent_alike (alike_shape b right) proper
  refine ⟨?_, sent_bound a, fun s member => Statement.confined_of_proper (accepted _ member)⟩
  rw [first, second, same]

def quotingCreate : Operation := .createDocument "i" "t" (.string "'; --") (some "a'\"")

def plainCreate : Operation := .createDocument "i" "t" .null (some "b")

def madeAnew : List Reply := [.rows [], .rows [], .rows [[.string "t", .string "i", .string ""]]]

def notCommitted : List (Except String Unit) := [.ok (), .error "disk full"]

theorem quoting_create_follows_shape : KnownRelations.empty.Proper ∧ quotingCreate.IdAccepted ∧ plainCreate.IdAccepted ∧
    quotingCreate.shape = plainCreate.shape ∧
    (quotingCreate.sent .empty madeAnew notCommitted).map Command.text = (plainCreate.sent .empty madeAnew notCommitted).map Command.text ∧
    (∀ c ∈ quotingCreate.sent .empty madeAnew notCommitted, c.parameters ∈ quotingCreate.bindings) ∧
    ∀ s, .run s ∈ quotingCreate.sent .empty madeAnew notCommitted → s.Confined := by
  have proper : KnownRelations.empty.Proper := fun _ none => by cases none
  have left : quotingCreate.IdAccepted := by rintro _ ⟨⟩; rfl
  have right : plainCreate.IdAccepted := by rintro _ ⟨⟩; rfl
  exact ⟨proper, left, right, rfl, texts_follow_shape _ _ _ _ _ proper left right rfl⟩

example : (plainCreate.sent .empty madeAnew []).length = 8 := by rfl

end Store

end SearchStore

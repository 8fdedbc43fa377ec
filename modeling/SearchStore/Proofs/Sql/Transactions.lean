import Mathlib.Data.List.Forall2
import SearchStore.Proofs.Sql.Commands
import SearchStore.Proofs.Store.Provisioning

/-!
Transactions. What a store sends to a database is told with every way the database may reply: any command
may fail. Only making a type opens a transaction, which holds the insertion of the type and no more
statements than those that make its sequence and its table, and which is closed at once when one of them
does not do what it is to do. An operation ends with the first failure of such a transaction, and one that
is not closed as it was to be is rolled back. A type counts as made, and its relation as known, when the
transaction was committed or the catalog has shown the type.
-/

set_option autoImplicit false

namespace SearchStore

namespace Dialogue

variable {I J : Interface} {α : Type} {answer : (r : I.Request) → Dialogue J (I.Reply r)}

inductive Carried (answer : (r : I.Request) → Dialogue J (I.Reply r)) : List (Exchange I) → List (Exchange J) → Prop where
  | nil : Carried answer [] []
  | cons (e : Exchange I) (calls : List (Exchange I)) (log later : List (Exchange J))
      (first : Passes (answer e.request) log e.reply) (rest : Carried answer calls later) :
      Carried answer (e :: calls) (log ++ later)

theorem carried_of_run {d : Dialogue I α} {log : List (Exchange J)} {a : α} (passed : Passes (d.run answer) log a) :
    ∃ calls, Passes d calls a ∧ Carried answer calls log := by
  induction d generalizing log with
  | done b =>
      obtain ⟨rfl, rfl⟩ := passes_done.mp passed
      exact ⟨[], .done a, .nil⟩
  | ask r next ih =>
      obtain ⟨first, reply, later, rfl, answered, onward⟩ := passes_bind.mp passed
      obtain ⟨calls, rest, carried⟩ := ih reply onward
      exact ⟨⟨r, reply⟩ :: calls, .ask r next reply calls a rest, .cons ⟨r, reply⟩ calls first later answered carried⟩

theorem carried_append {calls more : List (Exchange I)} {log later : List (Exchange J)} (left : Carried answer calls log)
    (right : Carried answer more later) : Carried answer (calls ++ more) (log ++ later) := by
  induction left with
  | nil => exact right
  | cons e calls first rest answered _ ih =>
      rw [List.append_assoc]
      exact .cons e _ first _ answered ih

theorem carried_split {calls more : List (Exchange I)} {log : List (Exchange J)} (carried : Carried answer (calls ++ more) log) :
    ∃ first later, log = first ++ later ∧ Carried answer calls first ∧ Carried answer more later := by
  induction calls generalizing log with
  | nil => exact ⟨[], log, rfl, .nil, carried⟩
  | cons e calls ih =>
      cases carried with
      | cons _ _ part rest answered others =>
          obtain ⟨first, later, rfl, left, right⟩ := ih others
          exact ⟨part ++ first, later, (List.append_assoc ..).symm, .cons e calls part first answered left, right⟩

theorem carried_member {calls : List (Exchange I)} {log : List (Exchange J)} (carried : Carried answer calls log)
    {e : Exchange I} (member : e ∈ calls) :
    ∃ earlier part later, log = earlier ++ part ++ later ∧ Passes (answer e.request) part e.reply := by
  induction carried with
  | nil => cases member
  | cons first calls part rest answered _ ih =>
      rcases List.mem_cons.mp member with rfl | member
      · exact ⟨[], part, rest, rfl, answered⟩
      · obtain ⟨earlier, inside, later, rfl, passed⟩ := ih member
        exact ⟨part ++ earlier, inside, later, by simp only [List.append_assoc], passed⟩

end Dialogue

namespace Sql

open Dialogue

namespace DatabaseM

variable {α β : Type} {log : List (Exchange Database)}

def Passes (op : DatabaseM α) (log : List (Exchange Database)) (result : Except Failure α) : Prop :=
  Dialogue.Passes op.run log result

theorem passes_pure {a : α} {result : Except Failure α} : Passes (pure a) log result ↔ log = [] ∧ result = .ok a :=
  passes_done

theorem passes_bind {op : DatabaseM α} {f : α → DatabaseM β} {result : Except Failure β} :
    Passes (op >>= f) log result ↔
      (∃ e, Passes op log (.error e) ∧ result = .error e) ∨
      ∃ a first later, log = first ++ later ∧ Passes op first (.ok a) ∧ Passes (f a) later result := by
  constructor
  · intro passed
    obtain ⟨first, outcome, later, rfl, left, right⟩ := Dialogue.passes_bind.mp passed
    cases outcome with
    | error e =>
        obtain ⟨rfl, same⟩ := passes_done.mp right
        rw [List.append_nil]
        exact Or.inl ⟨e, left, same⟩
    | ok a => exact Or.inr ⟨a, first, later, rfl, left, right⟩
  · rintro (⟨e, passed, rfl⟩ | ⟨a, first, later, rfl, left, right⟩)
    · rw [← List.append_nil log]
      exact Dialogue.passes_bind.mpr ⟨log, _, [], rfl, passed, .done _⟩
    · exact Dialogue.passes_bind.mpr ⟨first, _, later, rfl, left, right⟩

theorem passes_send {c : Command} {f : c.Answer → DatabaseM β} {result : Except Failure β} :
    Passes (send c >>= f) log result ↔
      (∃ text, log = [⟨c, .error text⟩] ∧ result = .error (.queryFailure (.database text))) ∨
      ∃ (found : c.Answer) (later : List (Exchange Database)), log = ⟨c, .ok found⟩ :: later ∧ Passes (f found) later result := by
  constructor
  · intro passed
    cases passed with
    | ask _ _ reply later _ rest =>
        cases reply with
        | error text =>
            obtain ⟨rfl, rfl⟩ := passes_done.mp rest
            exact Or.inl ⟨text, rfl, rfl⟩
        | ok found => exact Or.inr ⟨found, later, rfl, rest⟩
  · rintro (⟨text, rfl, rfl⟩ | ⟨found, later, rfl, rest⟩)
    · exact Dialogue.Passes.ask (I := Database) c _ (.error text) [] _ (.done _)
    · exact Dialogue.Passes.ask (I := Database) c _ (.ok found) later _ rest

theorem passes_row {s : Statement} {f : Option s.Row → DatabaseM β} {result : Except Failure β} :
    Passes (row s >>= f) log result ↔
      (∃ text, log = [⟨.run s, .error text⟩] ∧ result = .error (.queryFailure (.database text))) ∨
      ∃ (found : List s.Row) (later : List (Exchange Database)), log = ⟨.run s, .ok found⟩ :: later ∧
        Passes (f found.head?) later result := by
  simp only [row, rows, LawfulMonad.bind_assoc, LawfulMonad.pure_bind]
  exact passes_send

theorem passes_execute {s : Statement} {f : Unit → DatabaseM β} {result : Except Failure β} :
    Passes (execute s >>= f) log result ↔
      (∃ text, log = [⟨.run s, .error text⟩] ∧ result = .error (.queryFailure (.database text))) ∨
      ∃ (found : List s.Row) (later : List (Exchange Database)), log = ⟨.run s, .ok found⟩ :: later ∧
        Passes (f ()) later result := by
  simp only [execute, rows, LawfulMonad.bind_assoc, LawfulMonad.pure_bind]
  exact passes_send

theorem passes_or_abandon {d : DatabaseM α} {result : Except Failure α} (passed : Passes (orAbandon d) log result) :
    (∃ a, result = .ok a ∧ Passes d log (.ok a)) ∨
      ∃ e steps reply, result = .error e ∧ log = steps ++ [⟨.rollback, reply⟩] ∧ Passes d steps (.error e) := by
  obtain ⟨first, outcome, later, rfl, left, right⟩ := Dialogue.passes_bind.mp passed
  cases outcome with
  | ok a =>
      obtain ⟨rfl, rfl⟩ := passes_done.mp right
      rw [List.append_nil]
      exact Or.inl ⟨a, rfl, left⟩
  | error e =>
      cases right with
      | ask _ _ reply _ _ rest =>
          obtain ⟨rfl, rfl⟩ := passes_done.mp rest
          exact Or.inr ⟨e, first, reply, rfl, rfl, left⟩

end DatabaseM

-- How a transaction ends, by what has come of the statements in it, with what passes then and the result.
inductive Ended {α : Type} : Except Failure (Option α) → List (Exchange Database) → Except Failure (Option α) → Prop where
  | committed (a : α) : Ended (.ok (some a)) [⟨.commit, .ok ()⟩] (.ok (some a))
  | notCommitted (a : α) (text : String) (reply : Except String Unit) :
      Ended (.ok (some a)) [⟨.commit, .error text⟩, ⟨.rollback, reply⟩] (.error (.queryFailure (.database text)))
  | undone : Ended (.ok none) [⟨.rollback, .ok ()⟩] (.ok none)
  | notUndone (text : String) (reply : Except String Unit) :
      Ended (.ok none) [⟨.rollback, .error text⟩, ⟨.rollback, reply⟩] (.error (.queryFailure (.database text)))
  | abandoned (e : Failure) (reply : Except String Unit) : Ended (.error e) [⟨.rollback, reply⟩] (.error e)

theorem DatabaseM.passes_transaction {α : Type} {block : DatabaseM (Option α)} {log : List (Exchange Database)}
    {result : Except Failure (Option α)} (passed : DatabaseM.Passes (transaction block) log result) :
    (∃ text, log = [⟨.begin, .error text⟩] ∧ result = .error (.queryFailure (.database text))) ∨
      ∃ outcome steps ending, DatabaseM.Passes block steps outcome ∧ Ended outcome ending result ∧
        log = ⟨.begin, .ok ()⟩ :: steps ++ ending := by
  rcases passes_send.mp passed with failed | ⟨_, inside, rfl, rest⟩
  · exact Or.inl failed
  refine Or.inr ?_
  rcases passes_or_abandon rest with ⟨a, rfl, succeeded⟩ | ⟨e, parts, reply, rfl, rfl, failed⟩
  · rcases DatabaseM.passes_bind.mp succeeded with ⟨e, _, impossible⟩ | ⟨outcome, steps, last, rfl, inner, closed⟩
    · cases impossible
    refine ⟨.ok outcome, steps, last, inner, ?_, rfl⟩
    cases outcome with
    | some made =>
        rcases passes_send.mp closed with ⟨_, _, impossible⟩ | ⟨_, _, rfl, returned⟩
        · cases impossible
        obtain ⟨rfl, same⟩ := passes_pure.mp returned
        cases same
        exact .committed made
    | none =>
        rcases passes_send.mp closed with ⟨_, _, impossible⟩ | ⟨_, _, rfl, returned⟩
        · cases impossible
        obtain ⟨rfl, same⟩ := passes_pure.mp returned
        cases same
        exact .undone
  · rcases DatabaseM.passes_bind.mp failed with ⟨e', inner, same⟩ | ⟨outcome, steps, last, rfl, inner, closed⟩
    · cases same
      exact ⟨.error e, parts, _, inner, .abandoned e reply, rfl⟩
    refine ⟨.ok outcome, steps, last ++ [⟨.rollback, reply⟩], inner, ?_, by simp⟩
    cases outcome with
    | some made =>
        rcases passes_send.mp closed with ⟨text, rfl, same⟩ | ⟨_, _, _, returned⟩
        · cases same
          exact .notCommitted made text reply
        · cases (passes_pure.mp returned).2
    | none =>
        rcases passes_send.mp closed with ⟨text, rfl, same⟩ | ⟨_, _, _, returned⟩
        · cases same
          exact .notUndone text reply
        · cases (passes_pure.mp returned).2

-- The statements by which a type is made, each tried only when those before did what they are to do, and what
-- comes of them.
inductive Provision (r : Relation) (options : String) :
    List (Exchange Database) → Except Failure (Option TypeEntry) → Prop where
  | refused (text : String) :
      Provision r options [⟨.run (.insertType r options), .error text⟩] (.error (.queryFailure (.database text)))
  | present : Provision r options [⟨.run (.insertType r options), .ok []⟩] (.ok none)
  | noSequence (entry : TypeEntry) (more : List TypeEntry) (text : String) :
      Provision r options
        [⟨.run (.insertType r options), .ok (entry :: more)⟩, ⟨.run (.createSequence r), .error text⟩]
        (.error (.queryFailure (.database text)))
  | noTable (entry : TypeEntry) (more : List TypeEntry) (sequence : List Unit) (text : String) :
      Provision r options
        [⟨.run (.insertType r options), .ok (entry :: more)⟩, ⟨.run (.createSequence r), .ok sequence⟩,
          ⟨.run (.createTable r), .error text⟩]
        (.error (.queryFailure (.database text)))
  | made (entry : TypeEntry) (more : List TypeEntry) (sequence table : List Unit) :
      Provision r options
        [⟨.run (.insertType r options), .ok (entry :: more)⟩, ⟨.run (.createSequence r), .ok sequence⟩,
          ⟨.run (.createTable r), .ok table⟩]
        (.ok (some entry))

-- A transaction that makes a type, or cannot be opened, and what is replied to who asked for it.
inductive Attempt (r : Relation) (options : String) : List (Exchange Database) → Except Failure (Option TypeEntry) → Prop where
  | unopened (text : String) : Attempt r options [⟨.begin, .error text⟩] (.error (.queryFailure (.database text)))
  | opened (outcome reply : Except Failure (Option TypeEntry)) (steps ending : List (Exchange Database))
      (provision : Provision r options steps outcome) (ended : Ended outcome ending reply) :
      Attempt r options (⟨.begin, .ok ()⟩ :: steps ++ ending) reply

theorem insert_type_passes {r : Relation} {options : String} {log : List (Exchange Database)}
    {reply : Except Failure (Option TypeEntry)} (passed : Dialogue.Passes (Sql.answer (.insertType r options)) log reply) :
    Attempt r options log reply := by
  rcases DatabaseM.passes_transaction passed with ⟨text, rfl, rfl⟩ | ⟨outcome, steps, ending, inside, ended, rfl⟩
  · exact .unopened text
  refine .opened outcome reply steps ending ?_ ended
  rcases DatabaseM.passes_row.mp inside with ⟨text, rfl, rfl⟩ | ⟨found, later, rfl, onward⟩
  · exact .refused text
  cases found with
  | nil =>
      obtain ⟨rfl, rfl⟩ := DatabaseM.passes_pure.mp onward
      exact .present
  | cons entry more =>
      rcases DatabaseM.passes_execute.mp onward with ⟨text, rfl, rfl⟩ | ⟨sequence, later, rfl, sequenced⟩
      · exact .noSequence entry more text
      rcases DatabaseM.passes_execute.mp sequenced with ⟨text, rfl, rfl⟩ | ⟨table, later, rfl, tabled⟩
      · exact .noTable entry more sequence text
      obtain ⟨rfl, rfl⟩ := DatabaseM.passes_pure.mp tabled
      exact .made entry more sequence table

def Statement.Provides : Statement → Prop
  | .insertType _ _ | .createSequence _ | .createTable _ => True
  | _ => False

def Command.Plain : Command → Prop
  | .run s => ¬ s.Provides
  | _ => False

theorem served_plainly (q : StorageRequest) (other : ¬ q.Provides) : DatabaseM.Puts Command.Plain (serve q) := by
  cases q with
  | createCatalog => exact DatabaseM.puts_bind (DatabaseM.puts_execute id) fun _ => DatabaseM.puts_execute id
  | insertType => exact absurd trivial other
  | listIndices | listTypes | selectDocuments => exact DatabaseM.puts_send id
  | insertDocument r id source =>
      cases id with
      | some id => exact DatabaseM.puts_row fun provides => provides
      | none => exact DatabaseM.puts_generated (fun provides => provides) maxDraws
  | insertIndex | fetchIndex | fetchType | storeTypeOptions | fetchDocument | replaceDocument | removeDocument =>
      exact DatabaseM.puts_row id

variable {log later : List (Exchange Database)} {calls : List (Exchange Storage)} {r : Relation} {entry : TypeEntry}

theorem carried_plain (carried : Carried Sql.answer calls log) (others : ∀ e ∈ calls, ¬ e.request.Provides) :
    ∀ e ∈ log, e.request.Plain := by
  induction carried with
  | nil => simp
  | cons e calls log later answered _ ih =>
      obtain ⟨here, others⟩ := List.forall_mem_cons.mp others
      exact List.forall_mem_append.mpr ⟨puts_passed (served_plainly _ here) answered, ih others⟩

-- What an operation sends, and its result: plain statements, with at most one attempt to make a type among
-- them. An attempt that fails is the end of the operation, which fails with it.
inductive Sends {α : Type} : List (Exchange Database) → Except Failure α → Prop where
  | plainly (log : List (Exchange Database)) (result : Except Failure α) (plain : ∀ e ∈ log, e.request.Plain) : Sends log result
  | attempting (earlier part later : List (Exchange Database)) (r : Relation) (options : String)
      (reply : Except Failure (Option TypeEntry)) (result : Except Failure α) (attempt : Attempt r options part reply)
      (first : ∀ e ∈ earlier, e.request.Plain) (last : ∀ e ∈ later, e.request.Plain)
      (fails : ∀ e, reply = .error e → later = [] ∧ result = .error e) : Sends (earlier ++ part ++ later) result

theorem made_sends {α : Type} {options : String} {made : TypeEntry → Prop} {result : Except Failure α}
    (known : StoreM.Made r options made result calls) (carried : Carried Sql.answer calls log) : Sends log result := by
  cases known with
  | refused _ others none => exact .plainly log result (carried_plain carried others)
  | asked earlier later reply first last exact fails =>
      obtain ⟨before, onward, rfl, carriedFirst, carriedOn⟩ := carried_split carried
      cases carriedOn with
      | cons _ _ part rest answered carriedLast =>
          rw [← List.append_assoc]
          refine .attempting before part rest r options reply result (insert_type_passes answered)
            (carried_plain carriedFirst first) (carried_plain carriedLast last) fun e failed => ?_
          obtain ⟨rfl, fate⟩ := fails e failed
          cases carriedLast
          exact ⟨rfl, fate⟩

-- Within what is sent the type was made: its transaction went through and was committed.
def Committed (r : Relation) (entry : TypeEntry) (log : List (Exchange Database)) : Prop :=
  ∃ options steps earlier later, Provision r options steps (.ok (some entry)) ∧
    log = earlier ++ (⟨.begin, .ok ()⟩ :: steps ++ [⟨.commit, .ok ()⟩]) ++ later

-- Within what is sent the catalog showed the type.
def Shown (r : Relation) (entry : TypeEntry) (log : List (Exchange Database)) : Prop :=
  ∃ more, ⟨.run (.selectType r.index r.type), .ok (entry :: more)⟩ ∈ log

theorem committed_within {earlier part : List (Exchange Database)} (committed : Committed r entry part) :
    Committed r entry (earlier ++ part ++ later) := by
  obtain ⟨options, steps, before, after, provision, rfl⟩ := committed
  exact ⟨options, steps, earlier ++ before, after ++ later, provision, by simp only [List.append_assoc]⟩

theorem attempt_committed {options : String} (attempt : Attempt r options log (.ok (some entry))) : Committed r entry log := by
  cases attempt with
  | opened outcome _ steps ending provision ended =>
      cases ended
      exact ⟨options, steps, [], [], provision, by simp⟩

theorem committed_members (committed : Committed r entry log) :
    ⟨.commit, .ok ()⟩ ∈ log ∧ ∃ options more, ⟨.run (.insertType r options), .ok (entry :: more)⟩ ∈ log := by
  obtain ⟨options, steps, earlier, later, provision, rfl⟩ := committed
  cases provision with
  | made _ more sequence table => exact ⟨by simp, options, more, by simp⟩

theorem reported_committed (carried : Carried Sql.answer calls log) {e : Exchange Storage} (member : e ∈ calls)
    (reports : e.Reports r) : ∃ entry, Committed r entry log ∨ Shown r entry log := by
  obtain ⟨earlier, part, later, rfl, answered⟩ := carried_member carried member
  cases reports with
  | fetched entry =>
      change DatabaseM.Passes (row (.selectType r.index r.type)) part (.ok (some entry)) at answered
      rcases DatabaseM.passes_send.mp answered with ⟨text, rfl, same⟩ | ⟨found, rest, rfl, returned⟩
      · cases same
      · obtain ⟨rfl, same⟩ := DatabaseM.passes_pure.mp returned
        obtain ⟨more, rfl⟩ := List.head?_eq_some_iff.mp (Except.ok.inj same).symm
        exact ⟨entry, Or.inr ⟨more, by simp⟩⟩
  | inserted options entry =>
      exact ⟨entry, Or.inl (committed_within (attempt_committed (insert_type_passes answered)))⟩

open Store (Operation Result)

variable {index type options : String} {known between : KnownRelations}

theorem commit_closes {reply : Except Failure (Option TypeEntry)} {given : String} {more : List TypeEntry}
    (attempt : Attempt r options log reply) (commits : ⟨.commit, .ok ()⟩ ∈ log)
    (inserted : ⟨.run (.insertType r given), .ok (entry :: more)⟩ ∈ log) : reply = .ok (some entry) := by
  cases attempt with
  | unopened text => simp at commits
  | opened outcome _ steps ending provision ended =>
      cases provision with
      | made made =>
          cases ended with
          | committed =>
              simp at inserted
              rw [inserted.2.1]
          | notCommitted => simp at commits
      | present => cases ended <;> simp at commits
      | refused | noSequence | noTable =>
          cases ended
          simp at commits

theorem made_committed {α : Type} {made : TypeEntry → Prop} {calls : List (Exchange Storage)} {result : Except Failure α}
    (known : StoreM.Made r options made result calls) (carried : Carried Sql.answer calls log) :
    made entry ↔ Committed r entry log := by
  cases known with
  | refused _ others none =>
      refine iff_of_false (none entry) fun committed => ?_
      exact carried_plain carried others _ (committed_members committed).1
  | asked earlier later reply first last exact =>
      obtain ⟨before, onward, rfl, carriedFirst, carriedOn⟩ := carried_split carried
      cases carriedOn with
      | cons _ _ part rest answered carriedLast =>
          have attempt : Attempt r options part reply := insert_type_passes answered
          -- Whatever is not plain belongs to the attempt.
          have within (e : Exchange Database) (special : ¬ e.request.Plain) (member : e ∈ before ++ (part ++ rest)) : e ∈ part := by
            rcases List.mem_append.mp member with there | member
            · exact absurd (carried_plain carriedFirst first e there) special
            rcases List.mem_append.mp member with here | there
            · exact here
            · exact absurd (carried_plain carriedLast last e there) special
          rw [exact]
          constructor
          · rintro rfl
            rw [← List.append_assoc]
            exact committed_within (attempt_committed attempt)
          · intro committed
            obtain ⟨commits, given, more, inserted⟩ := committed_members committed
            have special : ¬ Command.Plain (.run (.insertType r given)) := not_not.mpr trivial
            exact commit_closes attempt (within _ id commits) (within _ special inserted)

theorem create_type_committed {result : Result}
    (passed : Dialogue.Passes (((Operation.createType index type options).perform known).run Sql.answer) log (result, between)) :
    result = .ok (.type entry) ↔ Committed ⟨index, type⟩ entry log := by
  obtain ⟨calls, asked, carried⟩ := carried_of_run passed
  obtain ⟨created, inside, rfl⟩ := StoreM.passes_return.mp asked
  rw [← made_committed (StoreM.create_type_made inside) carried]
  cases created <;> simp [Except.map]

theorem operation_sends {op : Operation} {result : Result} (passed : Dialogue.Passes ((op.perform known).run Sql.answer) log (result, between)) :
    Sends log result := by
  obtain ⟨calls, asked, carried⟩ := carried_of_run passed
  obtain ⟨r, options, made, kept⟩ := StoreM.once_perform op asked
  exact made_sends kept carried

-- Operations one after another, with what each of them sends to the database.
inductive Session :
    List Operation → KnownRelations → List (List (Exchange Database)) → List Result → KnownRelations → Prop where
  | nil (known : KnownRelations) : Session [] known [] [] known
  | cons (op : Operation) (ops : List Operation) (before between after : KnownRelations)
      (log : List (Exchange Database)) (logs : List (List (Exchange Database))) (result : Result) (results : List Result)
      (first : Dialogue.Passes ((op.perform before).run Sql.answer) log (result, between))
      (rest : Session ops between logs results after) : Session (op :: ops) before (log :: logs) (result :: results) after

theorem session_carried {ops : List Operation} {before after : KnownRelations} {logs : List (List (Exchange Database))}
    {results : List Result} (session : Session ops before logs results after) :
    ∃ calls, Store.Run ops before calls results after ∧ Carried Sql.answer calls logs.flatten := by
  induction session with
  | nil known => exact ⟨[], .nil known, .nil⟩
  | cons op ops before between after log logs result results first rest ih =>
      obtain ⟨later, run, carriedLater⟩ := ih
      obtain ⟨calls, asked, carried⟩ := carried_of_run first
      exact ⟨calls ++ later, .cons op ops before between after calls later result results asked run,
        carried_append carried carriedLater⟩

theorem session_member {ops : List Operation} {before after : KnownRelations} {logs : List (List (Exchange Database))}
    {results : List Result} (session : Session ops before logs results after) {i : Nat} {op : Operation} {result : Result}
    (asked : ops[i]? = some op) (sent : logs[i]? = some log) (answered : results[i]? = some result) :
    ∃ known between, Dialogue.Passes ((op.perform known).run Sql.answer) log (result, between) := by
  induction session generalizing i with
  | nil known => simp at asked
  | cons first ops before between after part logs outcome results passed rest ih =>
      cases i with
      | zero =>
          cases asked
          cases sent
          cases answered
          exact ⟨before, between, passed⟩
      | succ i => exact ih asked sent answered

theorem session_sends {ops : List Operation} {before after : KnownRelations} {logs : List (List (Exchange Database))}
    {results : List Result} (session : Session ops before logs results after) : List.Forall₂ Sends logs results := by
  induction session with
  | nil known => exact .nil
  | cons op ops before between after log logs result results first rest ih => exact .cons (operation_sends first) ih

/-- Types are made in transactions, whatever a database replies to each command: every transaction is arranged and closed
as `Sends` has it, `createType` succeeds when its transaction was committed and only then, and a relation is noted
after such a transaction or after the catalog has shown its type. -/
theorem types_made_in_transactions {ops : List Operation} {logs : List (List (Exchange Database))} {results : List Result}
    {after : KnownRelations} (session : Session ops .empty logs results after) :
    List.Forall₂ Sends logs results ∧
    (∀ (i : Nat) (index name options : String) (log : List (Exchange Database)) (result : Result) (entry : TypeEntry),
      ops[i]? = some (.createType index name options) → logs[i]? = some log → results[i]? = some result →
        (result = .ok (.type entry) ↔ Committed ⟨index, name⟩ entry log)) ∧
    (∀ (index type : String) (r : Relation), after.find? index type = some r →
      r = ⟨index, type⟩ ∧ ∃ entry, Committed r entry logs.flatten ∨ Shown r entry logs.flatten) := by
  obtain ⟨calls, run, carried⟩ := session_carried session
  refine ⟨session_sends session, ?_, ?_⟩
  · intro i index name options log result entry asked sent answered
    obtain ⟨known, between, passed⟩ := session_member session asked sent answered
    exact create_type_committed passed
  · intro index type r found
    rcases (Store.run_growth run).entered found with before | ⟨named, e, member, reports⟩
    · cases before
    · exact ⟨Store.relation_of_names named, reported_committed carried member reports⟩

def attempt : Operation := .createType "i" "t" "x"

def unopened : List (Exchange Database) :=
  [⟨.run (.insertIndex "i" ""), .ok []⟩, ⟨.begin, .error "the server is closed"⟩]

def statements : List (Exchange Database) :=
  [⟨.run (.insertIndex "i" ""), .ok []⟩, ⟨.begin, .ok ()⟩, ⟨.run (.insertType ⟨"i", "t"⟩ "x"), .ok [⟨"t", "i", "x"⟩]⟩,
    ⟨.run (.createSequence ⟨"i", "t"⟩), .ok []⟩, ⟨.run (.createTable ⟨"i", "t"⟩), .ok []⟩]

def uncommitted : List (Exchange Database) := statements ++ [⟨.commit, .error "disk full"⟩, ⟨.rollback, .ok ()⟩]

def completed : List (Exchange Database) := statements ++ [⟨.commit, .ok ()⟩]

theorem unopened_passes (known : KnownRelations) : Dialogue.Passes ((attempt.perform known).run Sql.answer) unopened
    (.error (.queryFailure (.database "the server is closed")), known) := by
  repeat refine Dialogue.Passes.ask (I := Database) _ _ _ _ _ ?_
  exact .done _

theorem uncommitted_passes (known : KnownRelations) : Dialogue.Passes ((attempt.perform known).run Sql.answer) uncommitted
    (.error (.queryFailure (.database "disk full")), known) := by
  repeat refine Dialogue.Passes.ask (I := Database) _ _ _ _ _ ?_
  exact .done _

theorem third_attempt_commits :
    Session [attempt, attempt, attempt] .empty [unopened, uncommitted, completed]
      [.error (.queryFailure (.database "the server is closed")), .error (.queryFailure (.database "disk full")),
        .ok (.type ⟨"t", "i", "x"⟩)] ⟨[⟨"i", "t"⟩]⟩ ∧
    (∀ entry, ¬ Committed ⟨"i", "t"⟩ entry unopened) ∧ (∀ entry, ¬ Committed ⟨"i", "t"⟩ entry uncommitted) ∧
      Committed ⟨"i", "t"⟩ ⟨"t", "i", "x"⟩ completed := by
  have made : Dialogue.Passes ((attempt.perform .empty).run Sql.answer) completed
      (.ok (.type ⟨"t", "i", "x"⟩), ⟨[⟨"i", "t"⟩]⟩) := by
    repeat refine Dialogue.Passes.ask (I := Database) _ _ _ _ _ ?_
    exact .done _
  have session : Session [attempt, attempt, attempt] .empty [unopened, uncommitted, completed] _ _ :=
    .cons _ _ _ _ _ _ _ _ _ (unopened_passes _) (.cons _ _ _ _ _ _ _ _ _ (uncommitted_passes _)
      (.cons _ _ _ _ _ _ _ _ _ made (.nil _)))
  obtain ⟨-, committed, -⟩ := types_made_in_transactions session
  refine ⟨session, fun entry there => ?_, fun entry there => ?_, ?_⟩
  · cases (committed 0 "i" "t" "x" unopened _ entry rfl rfl rfl).mpr there
  · cases (committed 1 "i" "t" "x" uncommitted _ entry rfl rfl rfl).mpr there
  · exact (committed 2 "i" "t" "x" completed _ _ rfl rfl rfl).mp rfl

-- Each `BEGIN` is followed by the insertion of a type, and one `COMMIT` or `ROLLBACK` closes it before any other statement.
def bracketed (opened : Bool) : List Command → Bool
  | [] => !opened
  | .begin :: .run (.insertType _ _) :: rest => !opened && bracketed true rest
  | .begin :: _ => false
  | .commit :: rest => opened && bracketed false rest
  | .rollback :: rest => opened && bracketed false rest
  | .run (.createSequence _) :: rest => opened && bracketed true rest
  | .run (.createTable _) :: rest => opened && bracketed true rest
  | .run _ :: rest => !opened && bracketed false rest

theorem failing_begin_or_commit_unbracketed :
    (Session [attempt] .empty [unopened] [.error (.queryFailure (.database "the server is closed"))] .empty ∧
      bracketed false (unopened.map (·.request)) = false) ∧
    Session [attempt] .empty [uncommitted] [.error (.queryFailure (.database "disk full"))] .empty ∧
      bracketed false (uncommitted.map (·.request)) = false :=
  ⟨⟨.cons _ _ _ _ _ _ _ _ _ (unopened_passes _) (.nil _), rfl⟩,
    .cons _ _ _ _ _ _ _ _ _ (uncommitted_passes _) (.nil _), rfl⟩

example : bracketed false (completed.map (·.request)) = true := rfl

end Sql

end SearchStore

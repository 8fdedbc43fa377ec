import SearchStore.Proofs.Sql.Commands
import SearchStore.Proofs.Sql.Rendering

/-!
What is bound to the statements of an operation. The names, options, ids, documents, patterns and the
values of a query that an operation is given are bound as parameters, each list of them as it is stated
here, and nothing else is.
-/

set_option autoImplicit false

namespace SearchStore.Store

open Sql

namespace Operation

-- Bound when the type of a pair is made: its index, the type, its sequence and table, and what there is of
-- it already.
def provisioned (index type options : String) : List (List Parameter) :=
  [[.text index, .text ""], [.text type, .text index, .text options], [], [.text index, .text type]]

-- The lists of parameters that the commands of an operation have.
def bindings : Operation → List (List Parameter)
  | .createCatalog => [[]]
  | .createIndex name options => [[.text name, .text options]]
  | .getIndex name => [[.text name]]
  | .findIndices pattern => [[.text (Pattern.ofWildcard pattern).like]]
  | .createType index type options => provisioned index type options
  | .getType index type => [[.text index, .text type]]
  | .replaceTypeOptions index type options => [[.text index, .text type, .text options]]
  | .findTypes index pattern => [[.text index, .text (Pattern.ofWildcard pattern).like]]
  | .createDocument index type source id =>
      match id.filter (· ≠ "") with
      | some id => [.text id, .json source] :: provisioned index type ""
      | none => [.json source] :: provisioned index type ""
  | .getDocument index type id => [[.text index, .text type], [.text id]]
  | .documentExists index type id => [[.text index, .text type], [.text id]]
  | .updateDocument index type source id => [[.text index, .text type], [.text id, .json source]]
  | .deleteDocument index type id => [[.text index, .text type], [.text id]]
  | .select index type predicate => [[.text index, .text type], (predicate.conditions.flatMap (·.bound)).map .text]

end Operation

def Binds (lists : List (List Parameter)) (q : StorageRequest) : Prop := DatabaseM.Puts (·.parameters ∈ lists) (serve q)

variable {lists : List (List Parameter)} {index type options : String}

theorem makes_bound (among : ∀ ps ∈ Operation.provisioned index type options, ps ∈ lists) :
    Makes (Binds lists) index type options where
  indexed := DatabaseM.puts_row (among _ (by simp [Operation.provisioned, Command.parameters, Statement.parameters]))
  inserted r valid := by
    obtain rfl := relation_of_names valid
    have plain : [] ∈ lists := among _ (by simp [Operation.provisioned])
    refine DatabaseM.puts_insert_type plain plain plain (among _ ?_) plain plain
    simp [Operation.provisioned, Command.parameters, Statement.parameters]
  fetched := DatabaseM.puts_row (among _ (by simp [Operation.provisioned, Command.parameters, Statement.parameters]))

theorem fetches_bound (among : [.text index, .text type] ∈ lists) : Binds lists (.fetchType index type) :=
  DatabaseM.puts_row among

theorem select_bound {r : Relation} {p : Predicate} (among : (p.conditions.flatMap (·.bound)).map .text ∈ lists) :
    Binds lists (.selectDocuments r p) := by
  refine DatabaseM.puts_send ?_
  obtain ⟨_, _, rendered⟩ := renders_all p 1
  rw [Command.parameters, Statement.parameters, rendered.values]
  exact among

namespace Operation

theorem asks_bound (op : Operation) : Asks (Binds op.bindings) op.perform := by
  have here (ps : List Parameter) (rest : List (List Parameter)) : ps ∈ ps :: rest := List.mem_cons_self ..
  have second (ps qs : List Parameter) : qs ∈ [ps, qs] := by simp
  cases op with
  | createCatalog =>
      refine asks_bind (asks_request ?_) fun _ => asks_pure _
      exact DatabaseM.puts_bind (DatabaseM.puts_execute (here ..)) fun _ => DatabaseM.puts_execute (here ..)
  | createIndex => exact asks_bind (asks_create_index (DatabaseM.puts_row (here ..))) fun _ => asks_pure _
  | getIndex | getType => exact asks_bind (asks_request (DatabaseM.puts_row (here ..))) fun _ => asks_pure _
  | findIndices | findTypes => exact asks_bind (asks_request (DatabaseM.puts_send (here ..))) fun _ => asks_pure _
  | createType => exact asks_bind (asks_create_type (makes_bound fun _ => id)) fun _ => asks_pure _
  | replaceTypeOptions => exact asks_bind (asks_replace_options (DatabaseM.puts_row (here ..))) fun _ => asks_pure _
  | createDocument index type source id =>
      refine asks_bind (asks_create_document ?_ fun r => ?_) fun _ => asks_pure _
      all_goals
        rw [bindings]
        generalize id.filter (· ≠ "") = given
        cases given
      · exact makes_bound fun _ => List.mem_cons_of_mem _
      · exact makes_bound fun _ => List.mem_cons_of_mem _
      · exact DatabaseM.puts_generated (here ..) maxDraws
      · exact DatabaseM.puts_row (here ..)
  | getDocument =>
      exact asks_bind (asks_get_document (fetches_bound (here ..)) fun _ => DatabaseM.puts_row (second ..)) fun _ => asks_pure _
  | documentExists =>
      exact asks_bind (asks_document_exists (fetches_bound (here ..)) fun _ => DatabaseM.puts_row (second ..)) fun _ => asks_pure _
  | updateDocument =>
      exact asks_bind (asks_update_document (fetches_bound (here ..)) fun _ => DatabaseM.puts_row (second ..)) fun _ => asks_pure _
  | deleteDocument =>
      exact asks_bind (asks_delete_document (fetches_bound (here ..)) fun _ => DatabaseM.puts_row (second ..)) fun _ => asks_pure _
  | select => exact asks_bind (asks_select (fetches_bound (here ..)) fun _ => select_bound (second ..)) fun _ => asks_pure _

theorem puts_bound (op : Operation) (g : KnownRelations) :
    Dialogue.Puts (I := Database) (·.parameters ∈ op.bindings) ((op.perform g).run Sql.answer) :=
  Dialogue.puts_run (fun _ bound => bound) (asks_bound op g)

end Operation

end SearchStore.Store

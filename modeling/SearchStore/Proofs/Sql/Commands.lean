import SearchStore.Proofs.Store.Asked
import SearchStore.Sql.Service

/-!
Which commands may be sent to a database for a request to a storage, whatever the database replies.
-/

set_option autoImplicit false

namespace SearchStore

theorem Dialogue.puts_run {I J : Interface} {α : Type} {may : I.Request → Prop} {sends : J.Request → Prop}
    {answer : (r : I.Request) → Dialogue J (I.Reply r)} (each : ∀ r, may r → (answer r).Puts sends) {d : Dialogue I α}
    (puts : d.Puts may) : (d.run answer).Puts sends := by
  induction d with
  | done a => trivial
  | ask r next ih => exact puts_bind (each r puts.1) fun reply => ih reply (puts.2 reply)

namespace Sql.DatabaseM

variable {α β : Type} {may : Command → Prop} {op : DatabaseM α} {f : α → DatabaseM β} {s : Statement}

def Puts (may : Command → Prop) (op : DatabaseM α) : Prop := Dialogue.Puts (I := Database) may op.run

theorem puts_pure (a : α) : Puts may (pure a) := trivial

theorem puts_throw (e : Failure) : Puts may (throw e : DatabaseM α) := trivial

theorem puts_bind (first : Puts may op) (next : ∀ a, Puts may (f a)) : Puts may (op >>= f) := by
  refine Dialogue.puts_bind first fun result => ?_
  cases result with
  | ok a => exact next a
  | error e => trivial

theorem puts_send {c : Command} (allowed : may c) : Puts may (send c) := ⟨allowed, fun _ => trivial⟩

theorem puts_row (allowed : may (.run s)) : Puts may (row s) := puts_bind (puts_send allowed) fun _ => puts_pure _

theorem puts_execute (allowed : may (.run s)) : Puts may (execute s) := puts_bind (puts_send allowed) fun _ => puts_pure _

theorem puts_transaction {block : DatabaseM (Option α)} (opens : may .begin) (commits : may .commit) (undoes : may .rollback)
    (inside : Puts may block) : Puts may (transaction block) := by
  refine puts_bind (puts_send opens) fun _ => Dialogue.puts_bind (puts_bind inside fun made => ?_) fun result => ?_
  · cases made with
    | some a => exact puts_bind (puts_send commits) fun _ => puts_pure _
    | none => exact puts_bind (puts_send undoes) fun _ => puts_pure _
  · cases result with
    | ok a => trivial
    | error e => exact ⟨undoes, fun _ => trivial⟩

theorem puts_insert_type {r : Relation} {options : String} (opens : may .begin) (commits : may .commit) (undoes : may .rollback)
    (listed : may (.run (.insertType r options))) (numbered : may (.run (.createSequence r))) (tabled : may (.run (.createTable r))) :
    Puts may (insertType r options) := by
  refine puts_transaction opens commits undoes (puts_bind (puts_row listed) fun inserted => ?_)
  cases inserted with
  | none => exact puts_pure none
  | some record => exact puts_bind (puts_execute numbered) fun _ => puts_bind (puts_execute tabled) fun _ => puts_pure _

theorem puts_generated {r : Relation} {source : Json} (allowed : may (.run (.insertGenerated r source))) (draws : Nat) :
    Puts may (insertGenerated r source draws) := by
  induction draws with
  | zero => exact puts_throw _
  | succ draws ih =>
      refine puts_bind (puts_row allowed) fun drawn => ?_
      cases drawn with
      | some d => exact puts_pure _
      | none => exact ih

end Sql.DatabaseM

end SearchStore

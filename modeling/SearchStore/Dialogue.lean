/-!
Computations that put requests to another party and go on with its replies. What the other party
does is not part of a dialogue: one dialogue can be run against a table in memory, a recorder, or a
script.
-/

set_option autoImplicit false

namespace SearchStore

structure Interface where
  Request : Type
  Reply : Request → Type

inductive Dialogue (I : Interface) (α : Type) where
  | done (a : α)
  | ask (r : I.Request) (next : I.Reply r → Dialogue I α)

namespace Dialogue

variable {I J : Interface} {α β : Type}

def bind : Dialogue I α → (α → Dialogue I β) → Dialogue I β
  | .done a, f => f a
  | .ask r next, f => .ask r fun reply => bind (next reply) f

instance : Monad (Dialogue I) where
  pure := .done
  bind := bind

theorem bind_done (d : Dialogue I α) : d.bind .done = d := by
  induction d with
  | done a => rfl
  | ask r next ih =>
      simp only [bind]
      exact congrArg (Dialogue.ask r) (funext ih)

theorem bind_assoc {γ : Type} (d : Dialogue I α) (f : α → Dialogue I β) (g : β → Dialogue I γ) :
    (d.bind f).bind g = d.bind fun a => (f a).bind g := by
  induction d with
  | done a => rfl
  | ask r next ih =>
      simp only [bind]
      exact congrArg (Dialogue.ask r) (funext ih)

instance : LawfulMonad (Dialogue I) :=
  LawfulMonad.mk' (Dialogue I) bind_done (fun _ _ => rfl) bind_assoc

def request (r : I.Request) : Dialogue I (I.Reply r) := .ask r .done

def run {m : Type → Type} [Monad m] (answer : (r : I.Request) → m (I.Reply r)) :
    Dialogue I α → m α
  | .done a => pure a
  | .ask r next => do
      let reply ← answer r
      run answer (next reply)

theorem run_bind {m : Type → Type} [Monad m] [LawfulMonad m]
    (answer : (r : I.Request) → m (I.Reply r)) (d : Dialogue I α) (f : α → Dialogue I β) :
    (d >>= f).run answer = d.run answer >>= fun a => (f a).run answer := by
  induction d with
  | done a =>
      rw [run, pure_bind]
      rfl
  | ask r next ih =>
      rw [run, LawfulMonad.bind_assoc]
      exact congrArg (answer r >>= ·) (funext ih)

end Dialogue

namespace Interface

def both (I J : Interface) : Interface where
  Request := I.Request ⊕ J.Request
  Reply
    | .inl r => I.Reply r
    | .inr r => J.Reply r

end Interface

namespace Dialogue

variable {I J : Interface} {α : Type}

def withFirst : Dialogue I α → Dialogue (I.both J) α
  | .done a => .done a
  | .ask r next => .ask (.inl r) fun reply => withFirst (next reply)

def withSecond : Dialogue J α → Dialogue (I.both J) α
  | .done a => .done a
  | .ask r next => .ask (.inr r) fun reply => withSecond (next reply)

end Dialogue

end SearchStore

import SearchStore.Store.KnownRelations

/-!
What passes between a dialogue and the other party: its requests, in order, each with the reply it
got. Nothing is assumed of the replies, so what holds of everything that may pass holds with every
storage. A dialogue run against a party with a state is one case.
-/

set_option autoImplicit false

namespace SearchStore

structure Exchange (I : Interface) where
  request : I.Request
  reply : I.Reply request

namespace Dialogue

variable {I : Interface} {α β σ : Type}

inductive Passes : Dialogue I α → List (Exchange I) → α → Prop where
  | done (a : α) : Passes (.done a) [] a
  | ask (r : I.Request) (next : I.Reply r → Dialogue I α) (reply : I.Reply r) (later : List (Exchange I)) (a : α)
      (rest : Passes (next reply) later a) : Passes (.ask r next) (⟨r, reply⟩ :: later) a

theorem passes_done {a b : α} {calls : List (Exchange I)} :
    Passes (.done a : Dialogue I α) calls b ↔ calls = [] ∧ b = a := by
  constructor
  · intro passed
    cases passed with
    | done => exact ⟨rfl, rfl⟩
  · rintro ⟨rfl, rfl⟩
    exact .done b

theorem passes_append {d : Dialogue I α} {f : α → Dialogue I β} {first later : List (Exchange I)} {a : α} {b : β}
    (left : Passes d first a) (right : Passes (f a) later b) : Passes (d.bind f) (first ++ later) b := by
  induction left with
  | done => exact right
  | ask r next reply calls a _ ih => exact .ask r _ reply _ b (ih right)

theorem passes_bind {d : Dialogue I α} {f : α → Dialogue I β} {calls : List (Exchange I)} {b : β} :
    Passes (d >>= f) calls b ↔
      ∃ first a later, calls = first ++ later ∧ Passes d first a ∧ Passes (f a) later b := by
  constructor
  · intro passed
    induction d generalizing calls with
    | done a => exact ⟨[], a, calls, rfl, .done a, passed⟩
    | ask r next ih =>
        cases passed with
        | ask _ _ reply calls _ rest =>
            obtain ⟨first, a, later, rfl, left, right⟩ := ih reply rest
            exact ⟨⟨r, reply⟩ :: first, a, later, rfl, .ask r next reply first a left, right⟩
  · rintro ⟨first, a, later, rfl, left, right⟩
    exact passes_append left right

inductive Served (answer : (r : I.Request) → StateM σ (I.Reply r)) : σ → List (Exchange I) → σ → Prop where
  | rest (s : σ) : Served answer s [] s
  | serve (s next last : σ) (e : Exchange I) (later : List (Exchange I))
      (replied : (answer e.request).run s = (e.reply, next)) (on : Served answer next later last) :
      Served answer s (e :: later) last

theorem served_append {answer : (r : I.Request) → StateM σ (I.Reply r)} {first middle last : σ} {calls more : List (Exchange I)}
    (left : Served answer first calls middle) (right : Served answer middle more last) :
    Served answer first (calls ++ more) last := by
  induction left with
  | rest s => exact right
  | serve s next _ e later replied _ ih => exact .serve s next last e _ replied (ih right)

theorem run_passes (answer : (r : I.Request) → StateM σ (I.Reply r)) (d : Dialogue I α) (s : σ) :
    ∃ calls, Passes d calls ((d.run answer).run s).1 ∧ Served answer s calls ((d.run answer).run s).2 := by
  induction d generalizing s with
  | done a => exact ⟨[], .done a, .rest s⟩
  | ask r next ih =>
      obtain ⟨later, passed, served⟩ := ih ((answer r).run s).1 ((answer r).run s).2
      exact ⟨⟨r, _⟩ :: later, .ask r next _ later _ passed, .serve s _ _ _ later rfl served⟩

end Dialogue

namespace StoreM

variable {α β : Type}

def Passes (op : StoreM α) (before : KnownRelations) (calls : List (Exchange Storage)) (result : Except Failure α)
    (after : KnownRelations) : Prop :=
  Dialogue.Passes (op before) calls (result, after)

variable {before after : KnownRelations} {calls : List (Exchange Storage)}

theorem passes_pure {a : α} {result : Except Failure α} :
    Passes (pure a) before calls result after ↔ calls = [] ∧ result = .ok a ∧ after = before := by
  rw [Passes, ← Prod.mk.injEq]
  exact Dialogue.passes_done

theorem passes_throw {e : Failure} {result : Except Failure α} :
    Passes (throw e) before calls result after ↔ calls = [] ∧ result = .error e ∧ after = before := by
  rw [Passes, ← Prod.mk.injEq]
  exact Dialogue.passes_done

theorem passes_bind {op : StoreM α} {f : α → StoreM β} {result : Except Failure β} :
    Passes (op >>= f) before calls result after ↔
      (∃ e, Passes op before calls (.error e) after ∧ result = .error e) ∨
      ∃ a between first later, calls = first ++ later ∧ Passes op before first (.ok a) between ∧
        Passes (f a) between later result after := by
  constructor
  · intro passed
    obtain ⟨first, ⟨outcome, between⟩, later, rfl, left, right⟩ := Dialogue.passes_bind.mp passed
    cases outcome with
    | error e =>
        obtain ⟨rfl, same⟩ := Dialogue.passes_done.mp right
        cases same
        rw [List.append_nil]
        exact Or.inl ⟨e, left, rfl⟩
    | ok a => exact Or.inr ⟨a, between, first, later, rfl, left, right⟩
  · rintro (⟨e, passed, rfl⟩ | ⟨a, between, first, later, rfl, left, right⟩)
    · rw [← List.append_nil calls]
      exact Dialogue.passes_bind.mpr ⟨calls, _, [], rfl, passed, .done _⟩
    · exact Dialogue.passes_bind.mpr ⟨first, _, later, rfl, left, right⟩

theorem passes_return {op : StoreM α} {f : α → β} {result : Except Failure β} :
    Passes (do return f (← op)) before calls result after ↔
      ∃ r, Passes op before calls r after ∧ result = r.map f := by
  refine passes_bind.trans ?_
  constructor
  · rintro (⟨e, passed, rfl⟩ | ⟨a, between, first, later, rfl, passed, returned⟩)
    · exact ⟨.error e, passed, rfl⟩
    · obtain ⟨rfl, rfl, rfl⟩ := passes_pure.mp returned
      rw [List.append_nil]
      exact ⟨.ok a, passed, rfl⟩
  · rintro ⟨r, passed, rfl⟩
    cases r with
    | error e => exact Or.inl ⟨e, passed, rfl⟩
    | ok a => exact Or.inr ⟨a, after, calls, [], (List.append_nil calls).symm, passed, passes_pure.mpr ⟨rfl, rfl, rfl⟩⟩

theorem passes_tryCatch {op : StoreM α} {handler : Failure → StoreM α} {result : Except Failure α} :
    Passes (tryCatch op handler) before calls result after ↔
      (∃ a, Passes op before calls (.ok a) after ∧ result = .ok a) ∨
      ∃ e between first later, calls = first ++ later ∧ Passes op before first (.error e) between ∧
        Passes (handler e) between later result after := by
  constructor
  · intro passed
    obtain ⟨first, ⟨outcome, between⟩, later, rfl, left, right⟩ := Dialogue.passes_bind.mp passed
    cases outcome with
    | ok a =>
        obtain ⟨rfl, same⟩ := Dialogue.passes_done.mp right
        cases same
        rw [List.append_nil]
        exact Or.inl ⟨a, left, rfl⟩
    | error e => exact Or.inr ⟨e, between, first, later, rfl, left, right⟩
  · rintro (⟨a, passed, rfl⟩ | ⟨e, between, first, later, rfl, left, right⟩)
    · rw [← List.append_nil calls]
      exact Dialogue.passes_bind.mpr ⟨calls, _, [], rfl, passed, .done _⟩
    · exact Dialogue.passes_bind.mpr ⟨first, _, later, rfl, left, right⟩

end StoreM

end SearchStore
